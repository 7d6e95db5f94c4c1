import CoilProbe.Proofs.Endings

/-!
# Outputs with a limit

An output may be interrupted at first, take a few bytes at a time, and have no more room at some
point. `Sink.Writes` says what the calls on it come to one after the other; `exists_writes` says
that there are only so many of them, and `limited_write` that the output has then taken the first
bytes, as many as it has room for. `probe_on_limited_output` says what this makes of a probe: no
network notices, and the result is another one exactly if the line does not fit.
-/

namespace CoilProbe

/-- A fault after which a call is made again. -/
def IoFault.Interrupts (fault : IoFault) : Prop := fault = .os 4 ∨ fault = .ofKind .interrupted

namespace Sink

variable {bytes : Bytes} {text : String} {k : Sink} {w w' : Written} {n m : Nat}

/-! ## Calls -/

/-- Writing bytes comes to something after some calls on the output. An output that has nothing to
report but an interruption is called again and again. -/
inductive Writes : Nat → Bytes → Sink → Written → Prop
  | done (k : Sink) : Writes 0 [] k ⟨none, k⟩
  | interrupted {n : Nat} {bytes : Bytes} {k : Sink} {w : Written} (hne : bytes ≠ [])
      (hsome : 0 < k.interruptions)
      (hrest : Writes n bytes { k with interruptions := k.interruptions - 1 } w) :
      Writes (n + 1) bytes k w
  | retried {n : Nat} {bytes : Bytes} {k : Sink} {w : Written} {fault : IoFault} (hne : bytes ≠ [])
      (hnone : k.interruptions = 0) (hfull : k.capacity bytes.length = 0)
      (hfault : k.fault = some fault) (hretry : fault.Interrupts) (hrest : Writes n bytes k w) :
      Writes (n + 1) bytes k w
  | refused {bytes : Bytes} {k : Sink} (hne : bytes ≠ []) (hnone : k.interruptions = 0)
      (hfull : k.capacity bytes.length = 0) (hfault : ∀ fault ∈ k.fault, ¬fault.Interrupts) :
      Writes 1 bytes k ⟨some (k.fault.getD .wroteNothing), k⟩
  | taken {n : Nat} {bytes : Bytes} {k : Sink} {w : Written} (hne : bytes ≠ [])
      (hnone : k.interruptions = 0) (hsome : 0 < k.capacity bytes.length)
      (hrest : Writes n (bytes.drop (k.capacity bytes.length))
        (k.take (bytes.take (k.capacity bytes.length))) w) : Writes (n + 1) bytes k w

/-- Writing a line comes to something after some calls: the end of the line is written if the text
has been. -/
inductive WritesLine : Nat → String → Sink → Written → Prop
  | cut {n : Nat} {text : String} {k : Sink} {w : Written} (htext : k.Writes n (Utf8.encode text) w)
      (hfault : w.fault ≠ none) : WritesLine n text k w
  | whole {n m : Nat} {text : String} {k : Sink} {w w' : Written}
      (htext : k.Writes n (Utf8.encode text) w) (hfault : w.fault = none)
      (hend : w.sink.Writes m (Utf8.encode "\n") w') : WritesLine (n + m) text k w'

theorem write_nil (k : Sink) : k.write [] = ⟨none, k⟩ := by
  rw [write, if_pos rfl]

theorem write_of_interrupted (hne : bytes ≠ []) (hsome : 0 < k.interruptions) :
    k.write bytes = { k with interruptions := k.interruptions - 1 }.write bytes := by
  rw [write, if_neg hne, dif_pos hsome]

theorem write_of_full (hne : bytes ≠ []) (hnone : k.interruptions = 0)
    (hfull : k.capacity bytes.length = 0) :
    k.write bytes = ⟨some (k.fault.getD .wroteNothing), k⟩ := by
  rw [write, if_neg hne, dif_neg (by omega), dif_pos hfull]

theorem write_of_taken (hne : bytes ≠ []) (hnone : k.interruptions = 0)
    (hsome : 0 < k.capacity bytes.length) :
    k.write bytes = (k.take (bytes.take (k.capacity bytes.length))).write
      (bytes.drop (k.capacity bytes.length)) := by
  rw [write, if_neg hne, dif_neg (by omega), dif_neg (by omega)]

/-- What the calls come to is what writing comes to. -/
theorem Writes.eq_write (h : k.Writes n bytes w) : w = k.write bytes := by
  induction h with
  | done k => exact (write_nil k).symm
  | interrupted hne hsome _ ih => rw [write_of_interrupted hne hsome, ih]
  | retried _ _ _ _ _ _ ih => exact ih
  | refused hne hnone hfull _ => rw [write_of_full hne hnone hfull]
  | taken hne hnone hsome _ ih => rw [write_of_taken hne hnone hsome, ih]

/-- Unless an output reports interruptions without end, writing ends: each call uses up a byte or an
interruption, but for the one that fails. -/
theorem exists_writes (bytes : Bytes) (hfault : ∀ fault ∈ k.fault, ¬fault.Interrupts) :
    ∃ n, k.Writes n bytes (k.write bytes) ∧ (k.write bytes).sink.fault = k.fault ∧
      n + (k.write bytes).sink.interruptions ≤
        bytes.length + k.interruptions + (k.write bytes).fault.toList.length := by
  fun_induction write bytes k with
  | case1 k => exact ⟨0, .done k, rfl, Nat.le_refl _⟩
  | case2 bytes k hne hi ih =>
    obtain ⟨n, hn, hsame, hle⟩ := ih hfault
    refine ⟨n + 1, .interrupted hne hi hn, hsame, ?_⟩
    simp only at hle
    omega
  | case3 bytes k hne hi hzero =>
    refine ⟨1, .refused hne (Nat.eq_zero_of_not_pos hi) hzero hfault, rfl, ?_⟩
    simp only [Option.toList_some, List.length_singleton]
    omega
  | case4 bytes k hne hi hzero ih =>
    obtain ⟨n, hn, hsame, hle⟩ := ih hfault
    have hpos : 0 < k.capacity bytes.length := Nat.pos_of_ne_zero hzero
    have hsome := k.capacity_le bytes.length
    refine ⟨n + 1, .taken hne (Nat.eq_zero_of_not_pos hi) hpos hn, hsame, ?_⟩
    have hsame' : (k.take (bytes.take (k.capacity bytes.length))).interruptions =
      k.interruptions := rfl
    rw [List.length_drop, hsame'] at hle
    omega

theorem exists_writesLine (text : String) (hfault : ∀ fault ∈ k.fault, ¬fault.Interrupts) :
    ∃ n ≤ (Utf8.encode (text ++ "\n")).length + k.interruptions + 1,
      k.WritesLine n text (k.writeLine text) := by
  obtain ⟨n, hn, hsame, hle⟩ := exists_writes (Utf8.encode text) hfault
  rw [writeLine, Utf8.encode_append, List.length_append]
  cases htext : (k.write (Utf8.encode text)).fault with
  | some fault =>
    rw [htext, Option.toList_some, List.length_singleton] at hle
    exact ⟨n, by omega, .cut hn (by rw [htext]; exact Option.some_ne_none fault)⟩
  | none =>
    obtain ⟨m, hm, -, hle'⟩ := exists_writes (k := (k.write (Utf8.encode text)).sink)
      (Utf8.encode "\n") (by rw [hsame]; exact hfault)
    have hone := Option.length_toList_le
      (o := ((k.write (Utf8.encode text)).sink.write (Utf8.encode "\n")).fault)
    rw [htext, Option.toList_none, List.length_nil] at hle
    exact ⟨n + m, by omega, .whole hn htext hm⟩

/-! ## What is taken -/

/-- How many of some bytes an output has room for, if it is offered so many. -/
def space (k : Sink) (bytes : Bytes) : Nat := k.room.getD bytes.length

/-- What writing comes to where nothing but the room is short. -/
structure Limited (k : Sink) (bytes : Bytes) (w : Written) : Prop where
  taken : w.sink.taken = k.taken ++ bytes.take (k.space bytes)
  fault : w.fault =
    if bytes.length ≤ k.space bytes then none else some (k.fault.getD .wroteNothing)
  room : w.sink.room = k.room.map (· - bytes.length)
  chunk : w.sink.chunk = k.chunk
  reports : w.sink.fault = k.fault

/-- An output that takes nothing of something has no room. -/
theorem room_of_full (hchunk : k.chunk ≠ some 0) (hne : bytes ≠ [])
    (hfull : k.capacity bytes.length = 0) : k.room = some 0 := by
  have hpos : 0 < bytes.length := List.length_pos_iff.2 hne
  cases hroom : k.room with
  | none =>
    have hunlimited := (show k.Unlimited from ⟨hroom, hchunk⟩).capacity_pos hpos
    omega
  | some room =>
    have hmin : cap k.chunk (min bytes.length room) = 0 := by
      rwa [capacity, hroom] at hfull
    cases hc : k.chunk with
    | none =>
      rw [hc] at hmin
      simp only [cap] at hmin
      rw [show room = 0 by omega]
    | some c =>
      have hc0 : c ≠ 0 := fun h => hchunk (by rw [hc, h])
      rw [hc] at hmin
      simp only [cap] at hmin
      rw [show room = 0 by omega]

theorem capacity_le_room {room : Nat} (hroom : k.room = some room) (n : Nat) :
    k.capacity n ≤ room := by
  have hle : cap k.room n ≤ room := by
    rw [hroom]
    exact Nat.min_le_right n room
  exact Nat.le_trans (cap_le _ _) hle

/-- The room for the rest is what is left of the room. -/
theorem space_take (k : Sink) (bytes : Bytes) :
    k.space bytes = k.capacity bytes.length +
      (k.take (bytes.take (k.capacity bytes.length))).space
        (bytes.drop (k.capacity bytes.length)) := by
  have hle := k.capacity_le bytes.length
  cases hroom : k.room with
  | none =>
    simp only [space, take, hroom, Option.map_none, Option.getD_none, List.length_drop]
    omega
  | some room =>
    have hroom' := capacity_le_room hroom bytes.length
    simp only [space, take, hroom, Option.map_some, Option.getD_some, List.length_take]
    omega

theorem limited_write (bytes : Bytes) (hchunk : k.chunk ≠ some 0) :
    k.Limited bytes (k.write bytes) := by
  fun_induction write bytes k with
  | case1 k =>
    refine ⟨?_, ?_, ?_, rfl, rfl⟩
    · rw [List.take_nil, List.append_nil]
    · exact (if_pos (Nat.zero_le _)).symm
    · simp
  | case2 bytes k hne hi ih =>
    obtain ⟨htaken, hfault, hroom, hsame, hreports⟩ := ih hchunk
    exact ⟨htaken, hfault, hroom, hsame, hreports⟩
  | case3 bytes k hne hi hzero =>
    have hroom := room_of_full hchunk hne hzero
    have hspace : k.space bytes = 0 := by rw [space, hroom, Option.getD_some]
    have hpos : 0 < bytes.length := List.length_pos_iff.2 hne
    refine ⟨?_, ?_, ?_, rfl, rfl⟩
    · rw [hspace, List.take_zero, List.append_nil]
    · rw [hspace, if_neg (by omega)]
    · rw [hroom, Option.map_some, Nat.zero_sub]
  | case4 bytes k hne hi hzero ih =>
    obtain ⟨htaken, hfault, hroom, hsame, hreports⟩ := ih hchunk
    have hle := k.capacity_le bytes.length
    have hspace := k.space_take bytes
    refine ⟨?_, ?_, ?_, hsame, hreports⟩
    · rw [htaken, hspace, List.take_add, ← List.append_assoc]
      rfl
    · rw [hfault, hspace, List.length_drop]
      exact if_congr (by omega) rfl rfl
    · rw [hroom, take, Option.map_map, List.length_drop, List.length_take_of_le hle]
      refine congrArg (Option.map · k.room) (funext fun room => ?_)
      simp only [Function.comp_apply]
      omega

/-- If there was room for all, writing more goes on with what room is left. -/
theorem Limited.append {more : Bytes} (h : k.Limited bytes w) (hfault : w.fault = none)
    (hmore : w.sink.Limited more w') : k.Limited (bytes ++ more) w' := by
  have hfits : bytes.length ≤ k.space bytes := by
    by_contra hshort
    rw [h.fault, if_neg hshort] at hfault
    cases hfault
  have hspace : k.space (bytes ++ more) = bytes.length + w.sink.space more := by
    cases hroom : k.room with
    | none =>
      simp only [space, h.room, hroom, Option.map_none, Option.getD_none, List.length_append]
    | some room =>
      simp only [space, h.room, hroom, Option.map_some, Option.getD_some] at hfits ⊢
      omega
  refine ⟨?_, ?_, ?_, hmore.chunk.trans h.chunk, hmore.reports.trans h.reports⟩
  · rw [hmore.taken, h.taken, List.take_of_length_le hfits, hspace, List.take_length_add_append,
      List.append_assoc]
  · rw [hmore.fault, hspace, h.reports, List.length_append]
    exact if_congr (by omega) rfl rfl
  · rw [hmore.room, h.room, Option.map_map, List.length_append]
    refine congrArg (Option.map · k.room) (funext fun room => ?_)
    simp only [Function.comp_apply]
    omega

/-- If there was no room for all, there is none for more. -/
theorem Limited.of_fault (h : k.Limited bytes w) (hfault : w.fault ≠ none) (more : Bytes) :
    k.Limited (bytes ++ more) w := by
  have hshort : k.space bytes < bytes.length := by
    by_contra hfits
    rw [h.fault, if_pos (by omega)] at hfault
    exact hfault rfl
  obtain ⟨room, hroom⟩ : ∃ room, k.room = some room := by
    refine Option.ne_none_iff_exists'.1 fun hnone => ?_
    rw [space, hnone] at hshort
    exact Nat.lt_irrefl _ hshort
  have hspace : k.space (bytes ++ more) = k.space bytes := by
    rw [space, space, hroom]
    rfl
  refine ⟨?_, ?_, ?_, h.chunk, h.reports⟩
  · rw [h.taken, hspace, List.take_append_of_le_length (by omega)]
  · rw [h.fault, hspace, if_neg (by omega), if_neg (by rw [List.length_append]; omega)]
  · rw [space, hroom, Option.getD_some] at hshort
    rw [h.room, hroom, Option.map_some, Option.map_some, List.length_append]
    exact congrArg some (by omega)

theorem limited_writeLine (text : String) (hchunk : k.chunk ≠ some 0) :
    k.Limited (Utf8.encode (text ++ "\n")) (k.writeLine text) := by
  have htext := limited_write (Utf8.encode text) hchunk
  rw [writeLine, Utf8.encode_append]
  cases hfault : (k.write (Utf8.encode text)).fault with
  | some fault => exact htext.of_fault (by rw [hfault]; exact Option.some_ne_none fault) _
  | none => exact htext.append hfault (limited_write _ (by rw [htext.chunk]; exact hchunk))

end Sink

/-! ## Probes -/

section Probe

variable {settings : Settings} {network : Network} {sink : Sink}

/-- Whatever its output, a probe writes the same line to it, or fails before it writes. -/
theorem probe_cases (settings : Settings) (network : Network) :
    (∃ line outcome, ∀ sink,
      (probe settings network sink).result = (sink.writeLine line).outcome outcome ∧
        (probe settings network sink).sink = (sink.writeLine line).sink) ∨
    ∃ f, ∀ sink, (probe settings network sink).result = .error f ∧
      (probe settings network sink).sink = sink := by
  rcases probe_tells settings network with ⟨outcome, htold⟩ | ⟨f, -, -, hfails⟩
  · exact .inl ⟨outcome.line settings, outcome, htold⟩
  · exact .inr ⟨f, hfails⟩

/-- A line that does not fit fails a probe with what the output reports. -/
theorem outcome_writeLine (line : String) (outcome : Outcome) (hchunk : sink.chunk ≠ some 0) :
    (sink.writeLine line).outcome outcome =
      if (Utf8.encode (line ++ "\n")).length ≤ sink.space (Utf8.encode (line ++ "\n"))
      then .ok outcome else .error (.output (sink.fault.getD .wroteNothing)) := by
  rw [Written.outcome, (Sink.limited_writeLine line hchunk).fault]
  by_cases hfits : (Utf8.encode (line ++ "\n")).length ≤ sink.space (Utf8.encode (line ++ "\n"))
  · rw [if_pos hfits, if_pos hfits]
  · rw [if_neg hfits, if_neg hfits]

theorem requests_probe (settings : Settings) (network : Network) (sink sink' : Sink) :
    (probe settings network sink).requests = (probe settings network sink').requests :=
  congrArg Session.requests
    ((session_probe settings network sink).trans (session_probe settings network sink').symm)

end Probe

/-- A probe whose output may be interrupted, takes a few bytes at a time and has room for so many,
compared with one whose output takes all. It ends: its output is called so many times at most. What
has been taken are the first bytes of what the other probe writes, as many as there is room for. If
all fit, both end alike. If not, the probe fails with what the output reports, or with what stands
for taking nothing without a report. The requests and the journal are the same with any output, and
so is the failure of a read, after which nothing is written. -/
theorem probe_on_limited_output (settings : Settings) (network : Network) (sink free : Sink)
    (hchunk : sink.chunk ≠ some 0) (hreport : ∀ fault ∈ sink.fault, ¬fault.Interrupts)
    (hfree : free.Unlimited) (hempty : free.taken = []) :
    let p := probe settings network sink
    let q := probe settings network free
    let text := q.sink.taken
    let limit := sink.room.getD text.length
    let fault := sink.fault.getD .wroteNothing
    ((text = [] ∧ p.sink = sink) ∨ ∃ line, text = Utf8.encode (line ++ "\n") ∧
      ∃ calls ≤ text.length + sink.interruptions + 1, ∃ w, sink.WritesLine calls line w ∧
        p.sink = w.sink) ∧
    p.sink.taken = sink.taken ++ text.take limit ∧
    (text.length ≤ limit → p.result = q.result) ∧
    (limit < text.length → p.result = .error (.output fault) ∧ exitStatus p.result = 1 ∧
      fault.message = (sink.fault.map IoFault.message).getD "failed to write whole buffer") ∧
    (∀ other, (probe settings network other).requests = q.requests ∧
      (probe settings network other).log = q.log) ∧
    ∀ f, q.result = .error f →
      text = [] ∧ ∀ other, (probe settings network other).result = .error f := by
  intro p q text limit fault
  have hsame (other) : (probe settings network other).requests = q.requests ∧
      (probe settings network other).log = q.log :=
    ⟨requests_probe settings network other free, log_probe settings network other free⟩
  have hmessage :
      fault.message = (sink.fault.map IoFault.message).getD "failed to write whole buffer" := by
    cases hreported : sink.fault with
    | none => simp only [fault, hreported]; rfl
    | some reported => simp only [fault, hreported]; rfl
  rcases probe_cases settings network with ⟨line, outcome, hwrites⟩ | ⟨f, hfails⟩
  · obtain ⟨hresult, hsink⟩ := hwrites sink
    obtain ⟨hresult', hsink'⟩ := hwrites free
    have htakes : (free.writeLine line).fault = none :=
      Sink.takes_of_unlimited hfree [line] line List.mem_cons_self
    have htext : text = Utf8.encode (line ++ "\n") := by
      show q.sink.taken = _
      rw [hsink', Sink.taken_writeLine htakes, hempty, List.nil_append]
    have hok : q.result = .ok outcome := by
      rw [hresult', Written.outcome, htakes]
    have hlimit : sink.space text = limit := rfl
    have hline := Sink.limited_writeLine line hchunk
    have hends := outcome_writeLine line outcome hchunk
    rw [← htext, hlimit] at hends
    refine ⟨.inr ⟨line, htext, ?_⟩, ?_, fun hfits => ?_, fun hshort => ?_, hsame, fun f hf => ?_⟩
    · obtain ⟨calls, hle, hcalls⟩ := Sink.exists_writesLine line hreport
      rw [← htext] at hle
      exact ⟨calls, hle, _, hcalls, hsink⟩
    · rw [hsink, hline.taken, ← htext, hlimit]
    · rw [hresult, hends, if_pos hfits, hok]
    · have herror : p.result = .error (.output fault) := by
        rw [hresult, hends, if_neg (by omega)]
      exact ⟨herror, by rw [herror]; rfl, hmessage⟩
    · rw [hok] at hf
      cases hf
  · have htext : text = [] := by
      show q.sink.taken = _
      rw [(hfails free).2, hempty]
    have hlength : text.length = 0 := by rw [htext, List.length_nil]
    refine ⟨.inl ⟨htext, (hfails sink).2⟩, ?_, fun _ => ?_, fun hshort => ?_, hsame,
      fun g hg => ⟨htext, fun other => ?_⟩⟩
    · rw [(hfails sink).2, htext, List.take_nil, List.append_nil]
    · rw [(hfails sink).1, (hfails free).1]
    · omega
    · rw [(hfails other).1, ← hg, (hfails free).1]

/-- An output that is interrupted twice, takes three bytes at a time, and is full when the end of
the line is to be written. -/
theorem probe_on_limited_output_newline :
    let settings : Settings := { host := "10.0.0.1" }
    let network : Network :=
      { servers := [⟨.v4 ⟨10, 0, 0, 1⟩ 502,
          .accept { replies := [.send [[0, 0, 0, 0, 0, 4, 1, 1, 1, 1]] none] }⟩] }
    let sink : Sink :=
      { room := some 4, chunk := some 3, interruptions := 2, fault := some (.os 28) }
    let p := probe settings network sink
    p.sink.taken = Utf8.encode "True" ∧ p.result = .error (.output (.os 28)) ∧
      exitStatus p.result = 1 ∧
      (IoFault.os 28).message = "No space left on device (os error 28)" ∧
      p.requests = (probe settings network {}).requests ∧
      ∃ line, ∃ calls ≤ 8, ∃ w, sink.WritesLine calls line w ∧ p.sink = w.sink := by
  intro settings network sink p
  have hreport : ∀ fault ∈ sink.fault, ¬fault.Interrupts := by
    rintro fault ⟨⟩ (h | h) <;> cases h
  have htext : (probe settings network {}).sink.taken = Utf8.encode "True\n" := by decide +kernel
  obtain ⟨hcalls, htaken, -, hshort, hsame, -⟩ :=
    probe_on_limited_output settings network sink {} (by decide) hreport ⟨rfl, by decide⟩ rfl
  rw [htext] at hcalls htaken hshort
  obtain ⟨hresult, hstatus, hmessage⟩ := hshort (by decide)
  refine ⟨htaken.trans (by decide), hresult, hstatus, hmessage.trans (by decide),
    (hsame sink).1, ?_⟩
  rcases hcalls with ⟨hnil, -⟩ | ⟨line, hline, calls, hle, hwrites⟩
  · exact absurd hnil (by decide)
  · exact ⟨line, calls, hle, hwrites⟩

end CoilProbe
