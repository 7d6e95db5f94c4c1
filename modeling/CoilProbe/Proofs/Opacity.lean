import CoilProbe.Modbus.Link
import Mathlib.Tactic.Common

/-!
# Requests that nobody looks into

A server answers by its script, and a client matches no answer with what it asked for. So other
requests in the place of those that were sent change nothing but the requests: this holds of each
operation of a server's end, of a wait (`receive_mapRequests`) and of a read
(`Link.exchange_mapRequests`).
-/

namespace CoilProbe

variable {f : Bytes → Bytes} {p : Peer}

namespace Peer

/-- The server's end if the client had written other requests. -/
def mapRequests (f : Bytes → Bytes) (p : Peer) : Peer :=
  { p with inbox := p.inbox.map f, received := p.received.map f }

@[simp] theorem arrived_mapRequests : (p.mapRequests f).arrived = p.arrived := rfl

@[simp] theorem flow_mapRequests : (p.mapRequests f).flow = p.flow := rfl

@[simp] theorem serving_mapRequests : (p.mapRequests f).serving = p.serving := rfl

@[simp] theorem nextReaction_mapRequests :
    (p.mapRequests f).nextReaction = p.nextReaction := rfl

theorem sendNext_mapRequests : (p.mapRequests f).sendNext = p.sendNext.mapRequests f := by
  simp only [sendNext, mapRequests]
  split <;> rfl

theorem takeRequest_mapRequests (request : Bytes) (chunks : List Bytes)
    (signoff : Option Signoff) :
    (p.mapRequests f).takeRequest (f request) chunks signoff =
      (p.takeRequest request chunks signoff).mapRequests f := by
  simp only [takeRequest, ← sendNext_mapRequests]
  simp only [mapRequests, List.map_append, List.map_singleton]

theorem serve_mapRequests (inbox : List Bytes) (p : Peer) :
    serve (inbox.map f) (p.mapRequests f) = (serve inbox p).mapRequests f := by
  induction inbox generalizing p with
  | nil => rfl
  | cons request rest ih =>
    rw [List.map_cons, serve, serve]
    by_cases hready : p.serving = true ∧ p.outgoing = []
    · have hready' : (p.mapRequests f).serving = true ∧ (p.mapRequests f).outgoing = [] := hready
      rw [if_pos hready, if_pos hready', nextReaction_mapRequests]
      cases p.nextReaction with
      | send chunks signoff => simp only [takeRequest_mapRequests, ih]
      | reset => rfl
    · have hready' : ¬((p.mapRequests f).serving = true ∧ (p.mapRequests f).outgoing = []) := hready
      rw [if_neg hready, if_neg hready']
      rfl

theorem turn_mapRequests : (p.mapRequests f).turn = p.turn.mapRequests f := by
  rw [turn, turn, serving_mapRequests]
  by_cases h : p.serving = true
  · rw [if_pos h, if_pos h, sendNext_mapRequests, ← serve_mapRequests]
    rfl
  · rw [if_neg h, if_neg h]

theorem afterTurns_mapRequests (turns : Nat) :
    (p.mapRequests f).afterTurns turns = (p.afterTurns turns).mapRequests f := by
  induction turns generalizing p with
  | zero => rfl
  | succ turns ih => rw [afterTurns, afterTurns, turn_mapRequests, ih]

theorem write?_mapRequests (request : Bytes) :
    (p.mapRequests f).write? (f request) = (p.write? request).map (mapRequests f) := by
  rw [write?, write?, serving_mapRequests]
  split
  · simp [mapRequests]
  · rfl

end Peer

/-- One round of a wait. -/
theorem receive_eq (buffer : Bytes) (intake : Intake) (p : Peer) :
    receive buffer intake p =
      match scan buffer with
      | .complete frame =>
        ⟨.frame frame, buffer, 0, intake.advance ((Scan.complete frame).used buffer), p⟩
      | .malformed fault =>
        ⟨.malformed fault, buffer, 0, intake.advance ((Scan.malformed fault).used buffer), p⟩
      | .incomplete =>
        if p.arrived = [] then
          match p.flow with
          | .toServer | .closed =>
            ⟨if buffer = [] then .ended else .cutOff, buffer, 0, intake.prepare buffer.length, p⟩
          | .reset => ⟨.reset, buffer, 0, intake.prepare buffer.length, { p with flow := .closed }⟩
          | .both =>
            if p.turn.arrived = [] ∧ p.turn.flow = .both then
              ⟨.silence, buffer, 1, intake.prepare buffer.length, p.turn⟩
            else (receive buffer (intake.prepare buffer.length) p.turn).afterTurn
        else
          let count := (intake.prepare buffer.length).room buffer.length
          receive (buffer ++ p.arrived.take count) (intake.prepare buffer.length)
            (p.afterTaking count) := by
  rw [receive]
  cases scan buffer with
  | complete frame => rfl
  | malformed fault => rfl
  | incomplete =>
    by_cases harr : p.arrived = []
    · simp only [dif_pos harr, if_pos harr]
      split
      · next h => simp only [h]
      · next h => simp only [h]
      · next h => simp only [h]
      · next h => simp only [h]; split <;> rfl
    · simp only [dif_neg harr, if_neg harr]

theorem receive_mapRequests (buffer : Bytes) (intake : Intake) (p : Peer) :
    receive buffer intake (p.mapRequests f) =
      { receive buffer intake p with peer := (receive buffer intake p).peer.mapRequests f } := by
  -- Along the rounds of the wait, which go by what has arrived and by the flow, not by requests.
  fun_induction receive buffer intake p with
  | case1 _ _ p _ hscan | case2 _ _ p _ hscan => rw [receive_eq]; simp only [hscan]
  | case3 _ _ p hscan _ harr hflow | case4 _ _ p hscan _ harr hflow
  | case5 _ _ p hscan _ harr hflow =>
    rw [receive_eq]
    simp only [hscan, Peer.arrived_mapRequests, harr, Peer.flow_mapRequests, hflow, if_true]
    rfl
  | case6 _ _ p hscan _ harr hflow hquiet =>
    rw [receive_eq]
    simp only [hscan, Peer.arrived_mapRequests, harr, Peer.flow_mapRequests, hflow, if_true,
      Peer.turn_mapRequests, if_pos hquiet]
    rfl
  | case7 _ _ p hscan _ harr hflow hmoved ih =>
    rw [receive_eq]
    simp only [hscan, Peer.arrived_mapRequests, harr, Peer.flow_mapRequests, hflow, if_true,
      Peer.turn_mapRequests, if_neg hmoved]
    exact congrArg Receipt.afterTurn ih
  | case8 _ _ p hscan _ harr _ ih =>
    have harr' : ¬(p.mapRequests f).arrived = [] := harr
    rw [receive_eq]
    simp only [hscan, if_neg harr']
    exact ih

/-! ## Connections -/

namespace Link

/-- A connection if other requests had been written to its server. -/
def mapRequests (f : Bytes → Bytes) (l : Link) : Link := { l with peer := l.peer.mapRequests f }

theorem exchange_mapRequests {l : Link} {a b : UInt16}
    (h : f (Request.encode ⟨l.header, a⟩) = Request.encode ⟨l.header, b⟩) :
    (l.mapRequests f).exchange b =
      { l.exchange a with link := (l.exchange a).link.mapRequests f } := by
  have hheader : (l.mapRequests f).header = l.header := rfl
  have hpeer : (l.mapRequests f).peer = l.peer.mapRequests f := rfl
  rw [exchange, exchange, hheader, hpeer, ← h, Peer.write?_mapRequests]
  cases l.peer.write? (Request.encode ⟨l.header, a⟩) with
  | none => rfl
  | some peer =>
    simp only [Option.map_some]
    cases hbroken : l.broken with
    | true =>
      have hbroken' : (l.mapRequests f).broken = true := hbroken
      simp only [hbroken', if_true]
      rfl
    | false =>
      have hbroken' : (l.mapRequests f).broken = false := hbroken
      simp only [hbroken', Bool.false_eq_true, if_false, receive_mapRequests]
      rfl

theorem requests_mapRequests (l : Link) :
    (l.mapRequests f).requests = l.requests.map f := by
  rw [requests, mapRequests, Peer.turn_mapRequests]
  rfl

end Link

end CoilProbe
