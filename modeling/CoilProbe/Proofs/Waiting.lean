import CoilProbe.Modbus.Link
import Mathlib.Tactic.Common

/-!
# Waiting for a frame

What a wait for a frame leaves alone and what it says of the bytes it took. `receive_preserves`
reduces an invariant of the server's end to its turns and to the taking of bytes; with it
`written_receive` says that a wait loses no request. `receive_scan` says that the bytes taken decide
how the wait ends, `receive_prefix` that they are the next bytes of the stream, and
`receive_prospect` that the stream has no bytes but those that the server had to send.
-/

namespace CoilProbe

namespace Peer

/-- The requests that the client has written, in order, those that the server has taken first. -/
def written (p : Peer) : List Bytes := p.received ++ p.inbox

/-! ## What turns keep -/

theorem received_sendNext (p : Peer) : p.sendNext.received = p.received := by
  unfold sendNext
  split <;> rfl

/-- The server takes requests in the order in which they were written, and drops none. -/
theorem written_serve (inbox : List Bytes) (p : Peer) :
    (serve inbox p).written = p.received ++ inbox := by
  induction inbox generalizing p with
  | nil => rfl
  | cons request rest ih =>
    unfold serve
    split
    · split
      · rw [ih, takeRequest, received_sendNext]
        simp
      · rfl
    · rfl

theorem received_prefix_serve (inbox : List Bytes) (p : Peer) :
    p.received <+: (serve inbox p).received := by
  induction inbox generalizing p with
  | nil => exact List.prefix_rfl
  | cons request rest ih =>
    unfold serve
    split
    · split
      · refine List.IsPrefix.trans ?_ (ih _)
        rw [takeRequest, received_sendNext]
        exact List.prefix_append _ _
      · exact List.prefix_rfl
    · exact List.prefix_rfl

theorem received_prefix_turn (p : Peer) : p.received <+: p.turn.received := by
  unfold turn
  split
  · have := received_prefix_serve p.inbox p.sendNext
    rwa [received_sendNext] at this
  · exact List.prefix_rfl

/-- A turn loses no request and makes none. -/
theorem written_turn (p : Peer) : p.turn.written = p.written := by
  unfold turn
  split
  · rw [written_serve, received_sendNext, written]
  · rfl

theorem written_afterTurns (turns : Nat) (p : Peer) :
    (p.afterTurns turns).written = p.written := by
  induction turns generalizing p with
  | zero => rfl
  | succ turns ih => rw [afterTurns, ih, written_turn]

theorem serving_of_turn {p : Peer} (h : p.turn.serving = true) : p.serving = true := by
  by_contra hp
  rw [turn, if_neg hp] at h
  exact hp h

theorem serving_of_afterTurns {turns : Nat} {p : Peer} (h : (p.afterTurns turns).serving = true) :
    p.serving = true := by
  induction turns generalizing p with
  | zero => exact h
  | succ turns ih => exact serving_of_turn (ih h)

theorem received_prefix (p : Peer) : p.received <+: p.written := List.prefix_append _ _

/-! ## What a server may still send -/

theorem ite_leave_ne_both {c : Prop} [Decidable c] {f : Flow} (signoff : Option Signoff)
    (h : f ≠ .both) : (if c then leave signoff f else f) ≠ .both := by
  split
  · cases signoff with
    | none => exact h
    | some how => cases how <;> exact nofun
  · exact h

/-- The bytes that the client can read, then those that the server may still send: none once it has
shut its side. -/
def prospect (p : Peer) : Bytes := p.arrived ++ if p.flow = .both then p.unsent else []

theorem prospect_of_both {p : Peer} (h : p.flow = .both) : p.prospect = p.arrived ++ p.unsent := by
  rw [prospect, if_pos h]

theorem prospect_of_ne {p : Peer} (h : p.flow ≠ .both) : p.prospect = p.arrived := by
  rw [prospect, if_neg h, List.append_nil]

/-- Sending moves bytes from the script to the client. What is not for the client is lost. -/
theorem prospect_of_sent {p q : Peer}
    (hsent : p.flow = .both → q.arrived ++ q.unsent = p.arrived ++ p.unsent)
    (hlost : p.flow ≠ .both → q.arrived = p.arrived ∧ q.flow ≠ .both) :
    q.prospect <+: p.prospect := by
  by_cases hflow : p.flow = .both
  · have hq : q.prospect <+: q.arrived ++ q.unsent := by
      by_cases hq : q.flow = .both
      · simp only [prospect_of_both hq, List.prefix_rfl]
      · rw [prospect_of_ne hq]
        exact List.prefix_append _ _
    rwa [hsent hflow, ← prospect_of_both hflow] at hq
  · obtain ⟨harrived, hq⟩ := hlost hflow
    simp only [prospect_of_ne hq, prospect_of_ne hflow, harrived, List.prefix_rfl]

theorem prospect_sendNext (p : Peer) : p.sendNext.prospect <+: p.prospect := by
  unfold sendNext
  split
  · exact List.prefix_rfl
  · rename_i chunk rest hout
    refine prospect_of_sent (fun hflow => ?_) fun hflow => ⟨if_neg hflow, ?_⟩
    · simp [hflow, unsent, hout]
    · exact ite_leave_ne_both p.signoff hflow

theorem prospect_takeRequest (request : Bytes) {chunks : List Bytes} {signoff : Option Signoff}
    {p : Peer} (hidle : p.outgoing = []) (hnext : p.nextReaction = .send chunks signoff) :
    (p.takeRequest request chunks signoff).prospect <+: p.prospect := by
  refine (prospect_sendNext _).trans (prospect_of_sent (fun _ => ?_) fun hflow => ⟨rfl, ?_⟩)
  · rw [unsent, unsent, hidle, flatten_append_of_nextReaction hnext]
    rfl
  · exact ite_leave_ne_both signoff hflow

theorem prospect_serve (inbox : List Bytes) (p : Peer) :
    (serve inbox p).prospect <+: p.prospect := by
  induction inbox generalizing p with
  | nil => exact List.prefix_rfl
  | cons request rest ih =>
    unfold serve
    split
    · rename_i hready
      split
      · rename_i chunks signoff hnext
        exact (ih _).trans (prospect_takeRequest request hready.2 hnext)
      · refine prospect_of_sent (fun _ => rfl) fun hflow => ⟨rfl, ?_⟩
        show (if p.flow = .both then Flow.reset else .closed) ≠ .both
        rw [if_neg hflow]
        exact nofun
    · exact List.prefix_rfl

/-- A turn makes no bytes of its own. -/
theorem prospect_turn (p : Peer) : p.turn.prospect <+: p.prospect := by
  unfold turn
  split
  · exact (prospect_serve _ _).trans (prospect_sendNext p)
  · exact List.prefix_rfl

theorem prospect_afterTurns (turns : Nat) (p : Peer) :
    (p.afterTurns turns).prospect <+: p.prospect := by
  induction turns generalizing p with
  | zero => exact List.prefix_rfl
  | succ turns ih => exact (ih p.turn).trans (prospect_turn p)

end Peer

/-! ## What a wait keeps -/

section Receive

variable {buffer : Bytes} {intake : Intake} {p : Peer}

/-- What turns, the taking of bytes and the noticing of a reset preserve, a wait preserves. -/
theorem receive_preserves (P : Peer → Prop) (hturn : ∀ p, P p → P p.turn)
    (htaking : ∀ n p, P p → P (p.afterTaking n))
    (hreset : ∀ p, p.flow = .reset → P p → P { p with flow := .closed }) (h : P p) :
    P (receive buffer intake p).peer := by
  fun_induction receive buffer intake p with
  | case1 => exact h
  | case2 => exact h
  | case3 => exact h
  | case4 => exact h
  -- a reset is noticed
  | case5 _ _ p _ _ _ hflow => exact hreset p hflow h
  -- a turn brings nothing
  | case6 _ _ p => exact hturn p h
  -- a turn brings something
  | case7 _ _ p _ _ _ _ _ ih => exact ih (hturn p h)
  -- bytes are taken
  | case8 _ _ p _ _ _ _ ih => exact ih (htaking _ p h)

theorem written_receive : (receive buffer intake p).peer.written = p.written := by
  refine receive_preserves (fun q => q.written = p.written) ?_ ?_ ?_ rfl
  · intro q hq
    rw [Peer.written_turn, hq]
  · intro n q hq
    exact hq
  · intro q hreset hq
    exact hq

/-- What is known of the bytes taken when a wait ends: they begin with the frame that it ends with,
or with what is wrong, or else they begin with no whole frame and nothing more has arrived. -/
def Receipt.Tells (r : Receipt) : Prop :=
  match r.arrival with
  | .frame f => scan r.taken = .complete f
  | .malformed fault => scan r.taken = .malformed fault
  | .ended | .cutOff | .reset | .silence => scan r.taken = .incomplete ∧ r.peer.arrived = []

/-- At the end of a stream there is no whole frame, and the end is no frame's. -/
theorem Receipt.tells_of_end (hscan : scan buffer = .incomplete) (harr : p.arrived = []) :
    Receipt.Tells ⟨if buffer = [] then .ended else .cutOff, buffer, 0, intake, p⟩ := by
  by_cases hb : buffer = []
  · rw [if_pos hb]
    exact ⟨hscan, harr⟩
  · rw [if_neg hb]
    exact ⟨hscan, harr⟩

/-- The bytes taken decide how a wait ends. -/
theorem receive_scan : (receive buffer intake p).Tells := by
  fun_induction receive buffer intake p with
  | case1 _ _ _ f hscan => exact hscan
  | case2 _ _ _ fault hscan => exact hscan
  | case3 _ _ p hscan _ harr => exact Receipt.tells_of_end hscan harr
  | case4 _ _ p hscan _ harr => exact Receipt.tells_of_end hscan harr
  | case5 _ _ p hscan _ harr => exact ⟨hscan, harr⟩
  | case6 _ _ p hscan _ _ _ hturn => exact ⟨hscan, hturn.1⟩
  | case7 _ _ p _ _ _ _ _ ih => exact ih
  | case8 _ _ p _ _ _ _ ih => exact ih

/-- The bytes taken, followed by those that have arrived since, are the bytes in the buffer,
followed by those that had arrived, followed by what the server sent meanwhile. -/
theorem receive_prefix :
    buffer ++ p.arrived <+:
      (receive buffer intake p).taken ++ (receive buffer intake p).peer.arrived := by
  fun_induction receive buffer intake p with
  | case1 => exact List.prefix_rfl
  | case2 => exact List.prefix_rfl
  | case3 => exact List.prefix_rfl
  | case4 => exact List.prefix_rfl
  | case5 => exact List.prefix_rfl
  | case6 buffer _ p _ _ harr =>
    rw [harr, List.append_nil]
    exact List.prefix_append _ _
  | case7 buffer _ p _ _ harr _ _ ih =>
    rw [harr, List.append_nil]
    exact (List.prefix_append buffer _).trans ih
  | case8 buffer _ p _ intake _ count ih =>
    have hsplit : buffer ++ p.arrived =
        (buffer ++ p.arrived.take count) ++ (p.afterTaking count).arrived := by
      rw [List.append_assoc, Peer.afterTaking, List.take_append_drop]
    rw [hsplit]
    exact ih

/-- No bytes are made in a wait: those taken, followed by those that the server may still send, are
the bytes in the buffer, followed by those that it might have sent before. -/
theorem receive_prospect :
    (receive buffer intake p).taken ++ (receive buffer intake p).peer.prospect <+:
      buffer ++ p.prospect := by
  fun_induction receive buffer intake p with
  | case1 => exact List.prefix_rfl
  | case2 => exact List.prefix_rfl
  | case3 => exact List.prefix_rfl
  | case4 => exact List.prefix_rfl
  -- a reset has ended what the server sends before it is noticed
  | case5 _ _ p _ _ _ hflow =>
    refine (List.prefix_append_right_inj _).2 (Peer.prospect_of_sent (fun hboth => ?_) fun _ => ?_)
    · rw [hflow] at hboth
      cases hboth
    · exact ⟨rfl, nofun⟩
  | case6 buffer _ p => exact (List.prefix_append_right_inj buffer).2 (Peer.prospect_turn p)
  | case7 buffer _ p _ _ _ _ _ ih =>
    exact ih.trans ((List.prefix_append_right_inj buffer).2 (Peer.prospect_turn p))
  -- the bytes taken move from what has arrived to the end of the buffer
  | case8 buffer _ p _ intake _ count ih =>
    have hsplit : (buffer ++ p.arrived.take count) ++ (p.afterTaking count).prospect =
        buffer ++ p.prospect := by
      rw [List.append_assoc, Peer.prospect, Peer.prospect, ← List.append_assoc (p.arrived.take _),
        Peer.afterTaking, List.take_append_drop]
      rfl
    rwa [hsplit] at ih

end Receive

/-! ## Exchanges -/

/-- What an exchange does. If the server has left, its request cannot be written. Otherwise the
request is written, and then the exchange fails at once if an earlier one has broken the stream, or
waits for a frame. -/
theorem Link.exchange_cases (a : UInt16) (l : Link) :
    (l.exchange a = ⟨.fault (.io .brokenPipe), [], 0, { l with next := l.next + 1 }⟩ ∧
      l.peer.serving = false) ∨
    (∃ peer, l.exchange a = ⟨.fault (.io .leftOver), [], 0,
        { l with peer := peer, next := l.next + 1, broken := false }⟩ ∧
      peer = { l.peer with inbox := l.peer.inbox ++ [Request.encode ⟨l.header, a⟩] } ∧
      l.peer.serving = true ∧ l.broken = true) ∨
    (∃ peer, l.exchange a = ⟨(receive [] l.intake peer).arrival.answer l.header,
        (receive [] l.intake peer).taken, (receive [] l.intake peer).turns,
        { l with
          peer := (receive [] l.intake peer).peer
          intake := (receive [] l.intake peer).intake
          next := l.next + 1
          broken := (receive [] l.intake peer).arrival.breaks }⟩ ∧
      peer = { l.peer with inbox := l.peer.inbox ++ [Request.encode ⟨l.header, a⟩] } ∧
      l.peer.serving = true ∧ l.broken = false) := by
  cases hs : l.peer.serving with
  | false =>
    left
    refine ⟨?_, rfl⟩
    simp only [exchange, Peer.write?, hs]
    rfl
  | true =>
    right
    cases hb : l.broken with
    | false =>
      right
      refine ⟨_, ?_, rfl, rfl, rfl⟩
      simp only [exchange, Peer.write?, hs, hb]
      rfl
    | true =>
      left
      refine ⟨_, ?_, rfl, rfl, rfl⟩
      simp only [exchange, Peer.write?, hs, hb]
      rfl

end CoilProbe
