import CoilProbe.Modbus.Answer
import CoilProbe.Net.Peer

/-!
# A connection and the exchanges on it

A `Link` is a connection as its client holds it, and `Link.exchange` asks for one coil: it writes a
request, then takes bytes from the connection until they begin with a complete frame, or something
is wrong with them, or nothing more comes.

Every exchange has the transaction id after that of the exchange before it, also when that one
failed. Bytes taken in one exchange and not used by it are thrown away; bytes not taken yet are left
for the next. After a malformed frame, a reset, or a stream that ended inside a frame, the next
exchange still writes its request but fails without waiting.
-/

namespace CoilProbe

/-- How a client's wait for a frame ends. -/
inductive Arrival where
  /-- With a frame. -/
  | frame (frame : Frame)
  /-- With bytes that are no frame. -/
  | malformed (fault : FrameFault)
  /-- With the end of the stream between two frames. -/
  | ended
  /-- With the end of the stream inside a frame. -/
  | cutOff
  /-- With a reset. -/
  | reset
  /-- With nothing, for as long as the client cares to wait. -/
  | silence
deriving DecidableEq

/-- The memory that a client takes bytes into. -/
structure Intake where
  /-- How many bytes it has room for. -/
  size : Nat := 8192
  /-- How many bytes at its beginning have been used up. -/
  used : Nat := 0
deriving DecidableEq

namespace Intake

/-- Makes room for another byte behind `held` bytes that are not used up. If the end is reached they
are moved to the beginning, but only if no more of them are there than were used up; otherwise the
memory grows to twice its size. -/
def prepare (held : Nat) (i : Intake) : Intake :=
  if i.used + held < i.size then i
  else if held ≤ i.used then { i with used := 0 }
  else { i with size := 2 * i.size }

/-- How many bytes can be taken at once behind `held` bytes, one at least. -/
def room (held : Nat) (i : Intake) : Nat := max 1 (i.size - (i.used + held))

/-- The memory after some bytes were used up. -/
def advance (count : Nat) (i : Intake) : Intake := { i with used := i.used + count }

theorem room_pos (held : Nat) (i : Intake) : 0 < i.room held :=
  Nat.lt_of_lt_of_le Nat.one_pos (Nat.le_max_left 1 _)

end Intake

/-- A wait for a frame. -/
structure Receipt where
  /-- How it ended. -/
  arrival : Arrival
  /-- The bytes that were taken from the connection, the frame's and those after it. -/
  taken : Bytes
  /-- How often nothing was there to take, so that the servers had turns. -/
  turns : Nat
  /-- The memory for bytes after it. -/
  intake : Intake
  /-- The server's end of the connection after it. -/
  peer : Peer
deriving DecidableEq

namespace Peer

/-- The server's end after the client took `count` bytes of what had arrived. -/
def afterTaking (count : Nat) (p : Peer) : Peer := { p with arrived := p.arrived.drop count }

/-- A bound on how long a wait can go on: twice the bytes still unsent, the bytes arrived, and one
more while the stream can still end. -/
def patience (p : Peer) : Nat :=
  2 * p.unsent.length + p.arrived.length + if p.flow = .both then 1 else 0

theorem patience_afterTaking_lt (count : Nat) (p : Peer) (pos : 0 < count)
    (some : ¬p.arrived = []) : (p.afterTaking count).patience < p.patience := by
  have h : 0 < p.arrived.length := List.length_pos_iff.2 some
  have left : (p.afterTaking count).arrived.length = p.arrived.length - count := List.length_drop
  have same : (p.afterTaking count).unsent = p.unsent ∧ (p.afterTaking count).flow = p.flow :=
    ⟨rfl, rfl⟩
  simp only [patience, same, left]
  omega

theorem patience_turn_lt (p : Peer) (none : p.arrived = []) (live : p.flow = .both)
    (moved : ¬(p.turn.arrived = [] ∧ p.turn.flow = .both)) : p.turn.patience < p.patience := by
  have volume := volume_turn_le p
  simp only [Peer.volume, none, List.length_nil, Nat.zero_add] at volume
  simp only [patience, none, live, List.length_nil, if_true]
  by_cases h : p.turn.arrived = []
  · have flow : p.turn.flow ≠ .both := fun e => moved ⟨h, e⟩
    simp only [h, List.length_nil, Nat.zero_add] at volume
    simp only [h, flow, List.length_nil, if_false]
    omega
  · have pos : 0 < p.turn.arrived.length := List.length_pos_iff.2 h
    split <;> omega

end Peer

/-- The same wait, with a turn of the servers before it. -/
def Receipt.afterTurn (r : Receipt) : Receipt := { r with turns := r.turns + 1 }

/-- Waits for a frame, with the bytes taken so far in the buffer. Bytes that have arrived are taken
before the end of the stream or a reset is noticed. While nothing has arrived the server has turns;
a turn that brings nothing is waited out. -/
def receive (buffer : Bytes) (intake : Intake) (p : Peer) : Receipt :=
  match scan buffer with
  | .complete frame =>
    ⟨.frame frame, buffer, 0, intake.advance ((Scan.complete frame).used buffer), p⟩
  | .malformed fault =>
    ⟨.malformed fault, buffer, 0, intake.advance ((Scan.malformed fault).used buffer), p⟩
  | .incomplete =>
    let intake := intake.prepare buffer.length
    if _ : p.arrived = [] then
      match _ : p.flow with
      | .toServer | .closed => ⟨if buffer = [] then .ended else .cutOff, buffer, 0, intake, p⟩
      | .reset => ⟨.reset, buffer, 0, intake, { p with flow := .closed }⟩
      | .both =>
        if _ : p.turn.arrived = [] ∧ p.turn.flow = .both then
          ⟨.silence, buffer, 1, intake, p.turn⟩
        else (receive buffer intake p.turn).afterTurn
    else
      let count := intake.room buffer.length
      receive (buffer ++ p.arrived.take count) intake (p.afterTaking count)
termination_by p.patience
decreasing_by
  · exact p.patience_turn_lt ‹_› ‹_› ‹_›
  · exact p.patience_afterTaking_lt _ (intake.room_pos _) ‹_›

/-- A connection as its client holds it. -/
structure Link where
  /-- The unit that requests on it address. -/
  unit : UInt8
  /-- Where it leads. -/
  peer : Peer
  /-- The memory for bytes that are taken from it. -/
  intake : Intake
  /-- The transaction id of the next exchange; after the last one it starts from zero again. -/
  next : UInt16
  /-- Whether the next exchange fails without waiting. -/
  broken : Bool
deriving DecidableEq

/-- An exchange on a connection. -/
structure Exchange where
  /-- What came of the request. -/
  answer : Answer
  /-- The bytes that were taken from the connection. -/
  taken : Bytes
  /-- How many turns the servers had meanwhile. -/
  turns : Nat
  /-- The connection after it. -/
  link : Link
deriving DecidableEq

/-- What an arrival means to a request with the header `sent`. -/
def Arrival.answer (sent : Header) : Arrival → Answer
  | .frame f => f.answer sent
  | .malformed fault => .fault (.frame fault)
  | .ended => .fault (.io .leftOver)
  | .cutOff => .fault .bytesRemaining
  | .reset => .fault (.io .connectionReset)
  | .silence => .silence

/-- Whether the exchange after an arrival fails without waiting. -/
def Arrival.breaks : Arrival → Bool
  | .malformed _ | .cutOff | .reset => true
  | .frame _ | .ended | .silence => false

namespace Link

/-- A new connection to a server, on which a unit is addressed. -/
def connect (unit : UInt8) (s : Service) : Link := ⟨unit, .accept s, {}, 0, false⟩

/-- The header of the next request. -/
def header (l : Link) : Header := ⟨l.next, l.unit⟩

/-- Asks for the coil at an address. -/
def exchange (address : UInt16) (l : Link) : Exchange :=
  match l.peer.write? (Request.encode ⟨l.header, address⟩) with
  | none => ⟨.fault (.io .brokenPipe), [], 0, { l with next := l.next + 1 }⟩
  | some peer =>
    if l.broken then
      ⟨.fault (.io .leftOver), [], 0, { l with peer := peer, next := l.next + 1, broken := false }⟩
    else
      let r := receive [] l.intake peer
      ⟨r.arrival.answer l.header, r.taken, r.turns,
        { l with
          peer := r.peer
          intake := r.intake
          next := l.next + 1
          broken := r.arrival.breaks }⟩

/-- The connection after turns of its server that the client did not wait for on it. -/
def afterTurns (turns : Nat) (l : Link) : Link := { l with peer := l.peer.afterTurns turns }

/-- The requests that the server has taken once everything is over: it has one more turn for those
that it has not taken yet. -/
def requests (l : Link) : List Bytes := l.peer.turn.received

end Link

end CoilProbe
