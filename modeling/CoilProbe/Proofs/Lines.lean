import CoilProbe.Proofs.Printing
import CoilProbe.Proofs.Probes
import Mathlib.Tactic.Common

/-!
# What a line tells

A probe that does not fail writes one line, which its outcome decides. The host in a line may hold
anything, colons, digits and ends of lines included. But the port behind it is all digits, so the
last colon is the one before the port, and the port has one way of being written. So the line tells
the outcome, and without a connection the host and the port too (`line_tells_outcome`).
-/

namespace CoilProbe

/-! ## Targets -/

/-- A text that has a character at its head and nowhere else has no other place to be cut at it. -/
theorem eq_nil_of_cons_eq_append_cons {c : Char} {us vs more : List Char} (hus : c ∉ us)
    (h : c :: us = more ++ c :: vs) : more = [] ∧ us = vs := by
  cases more with
  | nil => exact ⟨rfl, (List.cons.inj h).2⟩
  | cons d more =>
    obtain ⟨-, hmore⟩ := List.cons.inj h
    rw [hmore] at hus
    exact absurd (List.mem_append_right more List.mem_cons_self) hus

/-- The last place of a character cuts a text in one way. -/
theorem append_cons_inj_of_notMem_tail {c : Char} {xs ys us vs : List Char} (hus : c ∉ us)
    (hvs : c ∉ vs) : xs ++ c :: us = ys ++ c :: vs ↔ xs = ys ∧ us = vs := by
  constructor
  · intro h
    -- One of the two starts goes on where the other one ends.
    rcases List.append_eq_append_iff.1 h with ⟨more, hys, htail⟩ | ⟨more, hxs, htail⟩
    · obtain ⟨rfl, hsame⟩ := eq_nil_of_cons_eq_append_cons hus htail
      exact ⟨by rw [hys, List.append_nil], hsame⟩
    · obtain ⟨rfl, hsame⟩ := eq_nil_of_cons_eq_append_cons hvs htail
      exact ⟨by rw [hxs, List.append_nil], hsame.symm⟩
  · rintro ⟨rfl, rfl⟩
    rfl

theorem colon_notMem_toDigits (n : Nat) : ':' ∉ Nat.toDigits 10 n := by
  intro h
  have hdigit : ':'.isDigit = true := Nat.isDigit_of_mem_toDigits (by decide) (by decide) h
  revert hdigit
  decide

namespace Settings

theorem toList_target (s : Settings) :
    s.target.toList = s.host.toList ++ ':' :: Nat.toDigits 10 s.port.toNat := by
  rw [target, String.toList_append, String.toList_append, Nat.toString_eq_repr, Nat.toList_repr,
    List.append_assoc]
  rfl

theorem target_inj {s s' : Settings} :
    s.target = s'.target ↔ s.host = s'.host ∧ s.port = s'.port := by
  have hport : Nat.toDigits 10 s.port.toNat = Nat.toDigits 10 s'.port.toNat ↔ s.port = s'.port := by
    constructor
    · intro h
      -- A number is read back from its digits.
      have hvalue := congrArg (Nat.ofDigitChars 10 · 0) h
      simp only [Nat.ofDigitChars_ten_toDigits] at hvalue
      exact UInt16.toNat_inj.1 hvalue
    · intro h
      rw [h]
  rw [← String.toList_inj, toList_target, toList_target,
    append_cons_inj_of_notMem_tail (colon_notMem_toDigits _) (colon_notMem_toDigits _),
    String.toList_inj, hport]

theorem noConnection_inj {s s' : Settings} :
    s.noConnection = s'.noConnection ↔ s.host = s'.host ∧ s.port = s'.port := by
  rw [noConnection, noConnection, String.append_right_inj, target_inj]

/-- The first character is enough to tell the two kinds of lines apart. -/
theorem noConnection_ne_coilText (s : Settings) (value : Bool) :
    s.noConnection ≠ coilText value := by
  intro h
  have hhead : s.noConnection.toList.head? = some 'N' := by
    rw [noConnection, String.toList_append]
    rfl
  rw [h] at hhead
  cases value <;> exact absurd hhead (by decide)

end Settings

/-! ## Lines -/

theorem coilText_inj {value value' : Bool} : coilText value = coilText value' ↔ value = value' := by
  revert value value'
  decide

theorem Outcome.line_inj {s s' : Settings} {outcome outcome' : Outcome} :
    outcome.line s = outcome'.line s' ↔
      outcome = outcome' ∧ (outcome = .notConnected → s.host = s'.host ∧ s.port = s'.port) := by
  cases outcome with
  | value value =>
    cases outcome' with
    | value value' => simp [line, coilText_inj]
    | notConnected => simpa [line] using (s'.noConnection_ne_coilText value).symm
  | notConnected =>
    cases outcome' with
    | value value' => simpa [line] using s.noConnection_ne_coilText value'
    | notConnected => simp [line, Settings.noConnection_inj]

/-! ## Probes -/

theorem Written.outcome_eq_ok {w : Written} {outcome outcome' : Outcome} :
    w.outcome outcome = .ok outcome' ↔ w.fault = none ∧ outcome = outcome' := by
  rw [Written.outcome]
  cases w.fault with
  | none => simp
  | some fault => simp

/-- A probe that does not fail has written the line of its outcome. -/
theorem taken_probe {settings : Settings} {network : Network} {sink : Sink} {outcome : Outcome}
    (h : (probe settings network sink).result = .ok outcome) :
    (probe settings network sink).sink.taken =
      sink.taken ++ Utf8.encode (outcome.line settings ++ "\n") := by
  rcases probe_tells settings network with ⟨told, htold⟩ | ⟨f, -, -, hfails⟩
  · obtain ⟨hresult, hsink⟩ := htold sink
    rw [hresult] at h
    obtain ⟨hfault, rfl⟩ := Written.outcome_eq_ok.1 h
    rw [hsink, Sink.taken_writeLine hfault]
  · rw [(hfails sink).1] at h
    cases h

/-! ## Main statement -/

/-- Targets tell their host and port apart, whatever the host, and so do the lines that say there is
no connection; no line for a coil is one of these. Two probes that do not fail, with whatever
settings, networks and outputs, write the same bytes exactly if they have the same outcome and, if
it is that there is no connection, the same host and port. -/
theorem line_tells_outcome :
    (∀ s s' : Settings,
      (s.target = s'.target ↔ s.host = s'.host ∧ s.port = s'.port) ∧
      (s.noConnection = s'.noConnection ↔ s.host = s'.host ∧ s.port = s'.port) ∧
      ∀ value, s.noConnection ≠ coilText value) ∧
    ∀ (s s' : Settings) (network network' : Network) (sink sink' : Sink)
      (outcome outcome' : Outcome) (written written' : Bytes),
      (probe s network sink).result = .ok outcome →
      (probe s' network' sink').result = .ok outcome' →
      (probe s network sink).sink.taken = sink.taken ++ written →
      (probe s' network' sink').sink.taken = sink'.taken ++ written' →
      (written = written' ↔
        outcome = outcome' ∧
          (outcome = .notConnected → s.host = s'.host ∧ s.port = s'.port)) := by
  refine ⟨fun s s' => ⟨Settings.target_inj, Settings.noConnection_inj,
    s.noConnection_ne_coilText⟩, ?_⟩
  intro s s' network network' sink sink' outcome outcome' written written' hok hok' htaken htaken'
  have hwritten : written = Utf8.encode (outcome.line s ++ "\n") :=
    List.append_cancel_left (htaken.symm.trans (taken_probe hok))
  have hwritten' : written' = Utf8.encode (outcome'.line s' ++ "\n") :=
    List.append_cancel_left (htaken'.symm.trans (taken_probe hok'))
  rw [hwritten, hwritten', Utf8.encode_inj, String.append_left_inj, Outcome.line_inj]

/-- Two hosts without a connection that differ in where the colon before the port is, one of them
told on an output that is interrupted and takes two bytes at a time after a line that it has. -/
theorem line_tells_outcome_colons :
    let s : Settings := { host := "plc:50", port := 2 }
    let s' : Settings := { host := "plc", port := 502 }
    let sink' : Sink := { chunk := some 2, interruptions := 1, taken := Utf8.encode "True\n" }
    let line := Utf8.encode "No connct to plc:50:2\n"
    let line' := Utf8.encode "No connct to plc:502\n"
    (probe s {} {}).result = .ok .notConnected ∧
      (probe s' {} sink').result = .ok .notConnected ∧
      (probe s {} {}).sink.taken = line ∧
      (probe s' {} sink').sink.taken = Utf8.encode "True\n" ++ line' ∧ line ≠ line' := by
  intro s s' sink' line line'
  have hok : (probe s {} {}).result = .ok .notConnected := by decide +kernel
  have hok' : (probe s' {} sink').result = .ok .notConnected := by decide +kernel
  have htaken : (probe s {} {}).sink.taken = line := by decide +kernel
  have htaken' : (probe s' {} sink').sink.taken = sink'.taken ++ line' := by decide +kernel
  refine ⟨hok, hok', htaken, htaken', fun hsame => ?_⟩
  obtain ⟨-, htells⟩ :=
    (line_tells_outcome.2 s s' {} {} {} sink' _ _ _ _ hok hok' htaken htaken').1 hsame
  obtain ⟨hhost, -⟩ := htells rfl
  exact absurd hhost (by decide)

end CoilProbe
