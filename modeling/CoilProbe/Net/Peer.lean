import CoilProbe.Net.Script

/-!
# The server's end of a connection

A `Peer` is what a client's connection leads to: the bytes on their way to the client, the requests
on their way to the server, and what is left of the server's script.

The server acts in turns, and it has a turn only when the client waits, on this connection or
another one. In a turn it sends the next chunk of a reply it is in the middle of; when no chunk is
left it takes the requests that have arrived, one after the other, until it is in the middle of a
reply again. `volume_turn_le` says that a turn makes no bytes: what it sends was in the script.
-/

namespace CoilProbe

/-- Which way the bytes of a connection flow. -/
inductive Flow where
  /-- Both ways. -/
  | both
  /-- Only to the server, which sends no more. -/
  | toServer
  /-- No way: the server has closed the connection. -/
  | closed
  /-- No way: the server has reset the connection, and the client has not noticed yet. -/
  | reset
deriving DecidableEq

/-- The server's end of a connection. -/
structure Peer where
  /-- What the client can read. -/
  arrived : Bytes
  /-- Which way bytes flow. -/
  flow : Flow
  /-- Requests that the client has written and the server has not taken. -/
  inbox : List Bytes
  /-- Requests that the server has taken. -/
  received : List Bytes
  /-- The chunks left of the reply that the server is in the middle of. -/
  outgoing : List Bytes
  /-- How the server leaves after the last of them. -/
  signoff : Option Signoff
  /-- What the server does about later requests. -/
  reactions : List Reaction
deriving DecidableEq

namespace Peer

/-- How bytes flow after a server may have left. -/
def leave (signoff : Option Signoff) (f : Flow) : Flow :=
  match signoff with
  | none => f
  | some .close => .closed
  | some .shutdown => .toServer

/-- The server's end of a new connection. -/
def accept (s : Service) : Peer where
  arrived := s.first.flatten
  flow := leave s.firstThen .both
  inbox := []
  received := []
  outgoing := []
  signoff := none
  reactions := s.replies

/-- Whether the server still reads. -/
def serving (p : Peer) : Bool :=
  match p.flow with
  | .both | .toServer => true
  | .closed | .reset => false

/-- The client writes a request, which fails once the server has closed the connection. -/
def write? (request : Bytes) (p : Peer) : Option Peer :=
  if p.serving then some { p with inbox := p.inbox ++ [request] } else none

/-- The server sends the next chunk of its reply, and may leave after the last one. What it sends
after it has shut its side is lost. -/
def sendNext (p : Peer) : Peer :=
  match p.outgoing with
  | [] => p
  | chunk :: rest =>
    { p with
      arrived := if p.flow = .both then p.arrived ++ chunk else p.arrived
      outgoing := rest
      flow := if rest = [] then leave p.signoff p.flow else p.flow }

/-- The server takes a request and begins its reply. -/
def takeRequest (request : Bytes) (chunks : List Bytes) (signoff : Option Signoff) (p : Peer) :
    Peer :=
  sendNext
    { p with
      received := p.received ++ [request]
      outgoing := chunks
      signoff := signoff
      reactions := p.reactions.tail
      flow := if chunks = [] then leave signoff p.flow else p.flow }

/-- What the server does about the next request. -/
def nextReaction (p : Peer) : Reaction := p.reactions.headD (.send [] none)

/-- A reset, which goes unnoticed by a client that has seen the end of the stream already. -/
def drop (p : Peer) : Peer :=
  { p with flow := if p.flow = .both then .reset else .closed }

/-- The server takes the requests that have arrived while it reads and is not in the middle of a
reply. -/
def serve : (inbox : List Bytes) → Peer → Peer
  | [], p => { p with inbox := [] }
  | request :: rest, p =>
    if p.serving ∧ p.outgoing = [] then
      match p.nextReaction with
      | .send chunks signoff => serve rest (p.takeRequest request chunks signoff)
      | .reset => { p.drop with inbox := request :: rest }
    else { p with inbox := request :: rest }

/-- A turn of the server. -/
def turn (p : Peer) : Peer :=
  if p.serving then serve p.inbox p.sendNext else p

/-- The server's end after some turns. -/
def afterTurns : (turns : Nat) → Peer → Peer
  | 0, p => p
  | turns + 1, p => afterTurns turns p.turn

/-! ## Where the bytes are -/

/-- The bytes that the server has still to send, in order. -/
def unsent (p : Peer) : Bytes := p.outgoing.flatten ++ p.reactions.flatMap Reaction.bytes

/-- How many bytes the client can still get to read, those that it can read already included. -/
def volume (p : Peer) : Nat := p.arrived.length + p.unsent.length

theorem volume_sendNext_le (p : Peer) : p.sendNext.volume ≤ p.volume := by
  unfold sendNext
  split
  · exact Nat.le_refl _
  · rename_i chunk rest h
    simp only [volume, unsent, h, List.flatten_cons, List.length_append]
    split
    · rw [List.length_append]
      omega
    · omega

/-- What the server sends about the next request comes first in what is left of its script. -/
theorem flatten_append_of_nextReaction {chunks : List Bytes} {signoff : Option Signoff} {p : Peer}
    (next : p.nextReaction = .send chunks signoff) :
    chunks.flatten ++ p.reactions.tail.flatMap Reaction.bytes =
      p.reactions.flatMap Reaction.bytes := by
  unfold nextReaction at next
  cases h : p.reactions with
  | nil =>
    rw [h, List.headD_nil] at next
    cases next
    rfl
  | cons reaction later =>
    rw [h, List.headD_cons] at next
    rw [next]
    rfl

theorem volume_takeRequest_le (request : Bytes) (chunks : List Bytes) (signoff : Option Signoff)
    (p : Peer) (idle : p.outgoing = []) (next : p.nextReaction = .send chunks signoff) :
    (p.takeRequest request chunks signoff).volume ≤ p.volume := by
  refine Nat.le_trans (volume_sendNext_le _) (Nat.le_of_eq ?_)
  simp only [volume, unsent, idle, flatten_append_of_nextReaction next, List.flatten_nil,
    List.nil_append]

theorem volume_serve_le (inbox : List Bytes) (p : Peer) : (serve inbox p).volume ≤ p.volume := by
  induction inbox generalizing p with
  | nil => exact Nat.le_refl _
  | cons request rest ih =>
    unfold serve
    split
    · rename_i ready
      split
      · rename_i chunks signoff next
        exact Nat.le_trans (ih _) (volume_takeRequest_le request chunks signoff p ready.2 next)
      · exact Nat.le_refl _
    · exact Nat.le_refl _

/-- A turn makes no bytes. -/
theorem volume_turn_le (p : Peer) : p.turn.volume ≤ p.volume := by
  unfold turn
  split
  · exact Nat.le_trans (volume_serve_le _ _) (volume_sendNext_le p)
  · exact Nat.le_refl _

end Peer

end CoilProbe
