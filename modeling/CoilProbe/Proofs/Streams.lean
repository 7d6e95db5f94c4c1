import CoilProbe.Proofs.Frames
import CoilProbe.Proofs.Wire

/-!
# What a wait comes to

A wait for a frame takes bytes as they come, some of them before others are sent. What it comes to
depends only on the bytes of the stream and on how the stream ends, `Arrival.ofStream`, as long as
the server does not pause in between: `arrival_receive`. It may end before all is sent, since what
follows a frame, or the first place where there is none, makes no difference: `scan_append`.
-/

namespace CoilProbe

/-- What comes of a stream without a whole frame that ends as some flow does. -/
def Arrival.atEnd (stream : Bytes) : Flow → Arrival
  | .both => .silence
  | .toServer | .closed => if stream = [] then .ended else .cutOff
  | .reset => .reset

/-- What comes of a stream that ends as some flow does. -/
def Arrival.ofStream (stream : Bytes) (ending : Flow) : Arrival :=
  match scan stream with
  | .complete f => .frame f
  | .malformed fault => .malformed fault
  | .incomplete => atEnd stream ending

/-- Once some bytes tell something, those that follow do not change it. -/
theorem scan_append {bytes : Bytes} (more : Bytes) (h : scan bytes ≠ .incomplete) :
    scan (bytes ++ more) = scan bytes := by
  unfold scan at h
  split at h
  · rename_i t1 t0 p1 p0 l1 l0 unit rest
    simp only [List.cons_append, scan]
    by_cases hzero : (word l1 l0).toNat = 0
    · rw [if_pos hzero, if_pos hzero]
    · rw [if_neg hzero] at h
      by_cases hshort : rest.length + 1 < (word l1 l0).toNat
      · rw [if_pos hshort] at h
        exact absurd rfl h
      · have hwhole : ¬(rest ++ more).length + 1 < (word l1 l0).toNat := by
          rw [List.length_append]
          omega
        have hbody : (rest ++ more).take ((word l1 l0).toNat - 1) =
            rest.take ((word l1 l0).toNat - 1) := List.take_append_of_le_length (by omega)
        rw [if_neg hzero, if_neg hzero, if_neg hshort, if_neg hwhole, hbody]
  · exact absurd rfl h

theorem Arrival.ofStream_of_complete {bytes : Bytes} {f : Frame} (more : Bytes) (ending : Flow)
    (h : scan bytes = .complete f) : ofStream (bytes ++ more) ending = .frame f := by
  have hsame := scan_append more (show scan bytes ≠ .incomplete by rw [h]; nofun)
  rw [ofStream, hsame, h]

theorem Arrival.ofStream_of_malformed {bytes : Bytes} {fault : FrameFault} (more : Bytes)
    (ending : Flow) (h : scan bytes = .malformed fault) :
    ofStream (bytes ++ more) ending = .malformed fault := by
  have hsame := scan_append more (show scan bytes ≠ .incomplete by rw [h]; nofun)
  rw [ofStream, hsame, h]

namespace Peer

variable {p : Peer} {request later : Bytes} {chunks : List Bytes} {signoff : Option Signoff}
  {ending : Flow}

/-- What a server still brings: some bytes after those that have arrived, without a pause between
them, and then the stream ends in some way. -/
inductive Brings : Peer → Bytes → Flow → Prop
  /-- It has left. -/
  | left {p : Peer} (hflow : p.flow ≠ .both) : Brings p [] p.flow
  /-- It has nothing to do. -/
  | idle {p : Peer} (hflow : p.flow = .both) (hidle : p.outgoing = []) (hinbox : p.inbox = []) :
      Brings p [] .both
  /-- It is in the middle of a reply. -/
  | sending {p : Peer} (hflow : p.flow = .both) (hmore : p.outgoing ≠ [])
      (hsolid : [] ∉ p.outgoing) (hinbox : p.inbox = []) :
      Brings p p.outgoing.flatten (leave p.signoff .both)
  /-- It has been asked, and has not taken the request. -/
  | asked {p : Peer} {request : Bytes} {chunks : List Bytes} {signoff : Option Signoff}
      (hflow : p.flow = .both) (hidle : p.outgoing = []) (hinbox : p.inbox = [request])
      (hnext : p.nextReaction = .send chunks signoff) (hmore : chunks ≠ []) (hsolid : [] ∉ chunks) :
      Brings p chunks.flatten (leave signoff .both)

/-! ## Turns -/

theorem turn_of_idle (hflow : p.flow = .both) (hidle : p.outgoing = []) (hinbox : p.inbox = []) :
    p.turn = p := by
  have hserving : p.serving = true := by rw [serving, hflow]
  have hsend : p.sendNext = p := by rw [sendNext, hidle]
  rw [turn, if_pos hserving, hsend, hinbox, serve, ← hinbox]

/-- A server that is in the middle of a reply sends the next chunk of it. -/
theorem turn_of_sending {chunk : Bytes} {rest : List Bytes} (hflow : p.flow = .both)
    (hout : p.outgoing = chunk :: rest) (hinbox : p.inbox = []) :
    p.turn = { p with
      arrived := p.arrived ++ chunk
      outgoing := rest
      flow := if rest = [] then leave p.signoff .both else .both } := by
  have hserving : p.serving = true := by rw [serving, hflow]
  rw [turn, if_pos hserving, hinbox, serve, sendNext, hout]
  simp only [hflow, if_true]

/-- The server's end in the middle of the reply to a request that it has just taken. -/
def replying (request : Bytes) (chunks : List Bytes) (signoff : Option Signoff) (p : Peer) : Peer :=
  { p with
    inbox := []
    received := p.received ++ [request]
    outgoing := chunks
    signoff := signoff
    reactions := p.reactions.tail }

/-- A turn in which a server takes a request goes on as one in the middle of its reply. -/
theorem turn_of_asked (hflow : p.flow = .both) (hidle : p.outgoing = [])
    (hinbox : p.inbox = [request]) (hnext : p.nextReaction = .send chunks signoff)
    (hmore : chunks ≠ []) : p.turn = (p.replying request chunks signoff).turn := by
  have hserving : p.serving = true := by rw [serving, hflow]
  have hsend : p.sendNext = p := by rw [sendNext, hidle]
  cases chunks with
  | nil => exact absurd rfl hmore
  | cons chunk rest =>
    have hreplying : (p.replying request (chunk :: rest) signoff).flow = .both := hflow
    rw [turn_of_sending hreplying rfl rfl, turn, if_pos hserving, hsend, hinbox, serve,
      if_pos ⟨hserving, hidle⟩, hnext]
    simp only [serve, takeRequest, sendNext, replying, reduceCtorEq, if_false, hflow, if_true]

/-- In a turn a server sends bytes or has none to send. -/
theorem Brings.turn (h : p.Brings later ending) (hflow : p.flow = .both) :
    (later = [] ∧ ending = .both ∧ p.turn = p) ∨
      ∃ chunk rest, chunk ≠ [] ∧ later = chunk ++ rest ∧ p.turn.arrived = p.arrived ++ chunk ∧
        p.turn.Brings rest ending := by
  -- a server that takes a request has the same turn as one in the middle of the reply
  have hsending : ∀ {q : Peer}, q.flow = .both → q.outgoing ≠ [] → [] ∉ q.outgoing →
      q.inbox = [] → ∃ chunk rest, chunk ≠ [] ∧ q.outgoing.flatten = chunk ++ rest ∧
        q.turn.arrived = q.arrived ++ chunk ∧ q.turn.Brings rest (leave q.signoff .both) := by
    intro q hflow hmore hsolid hinbox
    cases hout : q.outgoing with
    | nil => exact absurd hout hmore
    | cons chunk rest =>
      rw [hout, List.mem_cons, not_or] at hsolid
      obtain ⟨hchunk, hrest⟩ := hsolid
      have hturn := turn_of_sending hflow hout hinbox
      refine ⟨chunk, rest.flatten, Ne.symm hchunk, List.flatten_cons, by rw [hturn], ?_⟩
      by_cases hlast : rest = []
      · subst hlast
        rw [if_pos rfl] at hturn
        have hbrings : q.turn.flow = leave q.signoff .both := by rw [hturn]
        rw [List.flatten_nil, ← hbrings]
        cases hsignoff : q.signoff with
        | none =>
          have hboth : q.turn.flow = .both := by rw [hbrings, hsignoff, leave]
          rw [hboth]
          exact .idle hboth (by rw [hturn]) (by rw [hturn]; exact hinbox)
        | some signoff =>
          refine .left ?_
          rw [hbrings, hsignoff]
          cases signoff <;> nofun
      · rw [if_neg hlast] at hturn
        rw [hturn]
        exact .sending rfl hlast hrest hinbox
  cases h with
  | left hleft => exact absurd hflow hleft
  | idle _ hidle hinbox => exact .inl ⟨rfl, rfl, turn_of_idle hflow hidle hinbox⟩
  | sending _ hmore hsolid hinbox => exact .inr (hsending hflow hmore hsolid hinbox)
  | asked _ hidle hinbox hnext hmore hsolid =>
    rw [turn_of_asked hflow hidle hinbox hnext hmore]
    exact .inr (hsending (q := p.replying _ _ _) hflow hmore hsolid rfl)

/-- A server that has left brings nothing more. -/
theorem Brings.of_left (h : p.Brings later ending) (hflow : p.flow ≠ .both) :
    later = [] ∧ ending = p.flow := by
  cases h with
  | left => exact ⟨rfl, rfl⟩
  | idle hboth | sending hboth | asked hboth => exact absurd hboth hflow

theorem Brings.afterTaking (h : p.Brings later ending) (count : Nat) :
    (p.afterTaking count).Brings later ending := by
  cases h with
  | left hflow => exact .left hflow
  | idle hflow hidle hinbox => exact .idle hflow hidle hinbox
  | sending hflow hmore hsolid hinbox => exact .sending hflow hmore hsolid hinbox
  | asked hflow hidle hinbox hnext hmore hsolid =>
    exact .asked hflow hidle hinbox hnext hmore hsolid

end Peer

/-! ## Waits -/

theorem Arrival.ofStream_of_left {buffer : Bytes} {p : Peer} {later : Bytes} {ending : Flow}
    (h : p.Brings later ending) (hscan : scan buffer = .incomplete) (harr : p.arrived = [])
    (hflow : p.flow ≠ .both) : ofStream (buffer ++ p.arrived ++ later) ending =
      atEnd buffer p.flow := by
  obtain ⟨rfl, rfl⟩ := h.of_left hflow
  rw [harr, List.append_nil, List.append_nil, ofStream, hscan]

/-- What a wait comes to depends on the bytes of the stream and its end only. -/
theorem arrival_receive {buffer stream : Bytes} {intake : Intake} {p : Peer} {ending : Flow}
    (h : ∃ later, p.Brings later ending ∧ buffer ++ p.arrived ++ later = stream) :
    (receive buffer intake p).arrival = .ofStream stream ending := by
  fun_induction receive buffer intake p with
  | case1 _ _ _ f hscan =>
    obtain ⟨later, -, rfl⟩ := h
    rw [List.append_assoc, Arrival.ofStream_of_complete _ _ hscan]
  | case2 _ _ _ fault hscan =>
    obtain ⟨later, -, rfl⟩ := h
    rw [List.append_assoc, Arrival.ofStream_of_malformed _ _ hscan]
  | case3 _ _ p hscan _ harr hflow =>
    obtain ⟨later, hbrings, rfl⟩ := h
    rw [Arrival.ofStream_of_left hbrings hscan harr (by rw [hflow]; decide), hflow, Arrival.atEnd]
  | case4 _ _ p hscan _ harr hflow =>
    obtain ⟨later, hbrings, rfl⟩ := h
    rw [Arrival.ofStream_of_left hbrings hscan harr (by rw [hflow]; decide), hflow, Arrival.atEnd]
  | case5 _ _ p hscan _ harr hflow =>
    obtain ⟨later, hbrings, rfl⟩ := h
    rw [Arrival.ofStream_of_left hbrings hscan harr (by rw [hflow]; decide), hflow, Arrival.atEnd]
  -- nothing comes any more
  | case6 buffer _ p hscan _ harr hflow hquiet =>
    obtain ⟨later, hbrings, rfl⟩ := h
    rcases hbrings.turn hflow with ⟨rfl, rfl, -⟩ | ⟨chunk, rest, hchunk, -, harrived, -⟩
    · rw [harr, List.append_nil, List.append_nil, Arrival.ofStream, hscan, Arrival.atEnd]
    · rw [harrived, harr, List.nil_append] at hquiet
      exact absurd hquiet.1 hchunk
  -- the server sends the next bytes
  | case7 buffer _ p hscan _ harr hflow hmoved ih =>
    obtain ⟨later, hbrings, rfl⟩ := h
    rcases hbrings.turn hflow with ⟨-, -, hturn⟩ | ⟨chunk, rest, -, rfl, harrived, hrest⟩
    · rw [hturn] at hmoved
      exact absurd ⟨harr, hflow⟩ hmoved
    · refine ih ⟨rest, hrest, ?_⟩
      rw [harrived]
      simp only [List.append_assoc]
  -- the next bytes are taken
  | case8 buffer _ p hscan intake harr count ih =>
    obtain ⟨later, hbrings, rfl⟩ := h
    refine ih ⟨later, hbrings.afterTaking count, ?_⟩
    rw [Peer.afterTaking, List.append_assoc buffer, List.take_append_drop]

end CoilProbe
