import CoilProbe.Proofs.Endings

/-!
# When a session is open

A session is open from the first connection that it makes to its end, whatever its reads end in and
whatever attempts at other connections come to: `isOpen_after_iff`. Until then its reads come to
nothing and leave it as it is. Steps that only look at a session do not change it, so it makes no
difference which of them are carried out: `reports_chosen`. The main statement is
`open_from_first_connection`.
-/

namespace CoilProbe

/-- Whether a step only looks at the session. -/
def Step.looks : Step → Bool
  | .isOpen | .settings => true
  | .connect | .read _ => false

/-- Those of some things that are kept. -/
def chosen {α : Type} (kept : List Bool) (xs : List α) : List α :=
  ((kept.zip xs).filter Prod.fst).map Prod.snd

theorem chosen_true {α : Type} (kept : List Bool) (x : α) (xs : List α) :
    chosen (true :: kept) (x :: xs) = x :: chosen kept xs := rfl

theorem chosen_false {α : Type} (kept : List Bool) (x : α) (xs : List α) :
    chosen (false :: kept) (x :: xs) = chosen kept xs := rfl

namespace Session

variable {s : Session} {step : Step} {steps : List Step} {i : Nat}

/-- Step number `i` of some steps makes a connection. -/
def ConnectsAt (s : Session) (steps : List Step) (i : Nat) : Prop :=
  steps[i]? = some .connect ∧ ∃ r, (s.reports steps)[i]? = some r ∧ r.result = .ok .done

/-! ## Steps -/

theorem isOpen_perform_iff (s : Session) (step : Step) :
    (s.perform step).session.isOpen = true ↔
      s.isOpen = true ∨ step = .connect ∧ (s.perform step).result = .ok .done := by
  cases step with
  | connect =>
    rcases s.isOpen_connect with ⟨hok, hopen⟩ | ⟨f, herr, hheld⟩
    · have hresult : (s.perform .connect).result = .ok .done := by
        rw [perform, hok]
        rfl
      exact ⟨fun _ => .inr ⟨rfl, hresult⟩, fun _ => hopen⟩
    · have hsame : s.connect.session.isOpen = s.isOpen := congrArg Option.isSome hheld
      have hresult : (s.perform .connect).result = .error f := by
        rw [perform, herr]
        rfl
      rw [hresult, perform, hsame]
      constructor
      · exact .inl
      · rintro (h | ⟨-, h⟩)
        · exact h
        · cases h
  | isOpen => simp [perform]
  | settings => simp [perform]
  | read a =>
    cases hheld : s.held with
    | none => simp [perform, read_of_not_held a hheld]
    | some c => simp [perform, read_of_held a hheld, isOpen, hheld]

/-- A read tells that there is no connection exactly if none is held. -/
theorem read_notConnected_iff (s : Session) (a : UInt16) :
    (s.read a).result = .error .notConnected ↔ ¬s.isOpen = true := by
  constructor
  · intro h hopen
    exact ofRead_of_isOpen hopen h
  · intro hopen
    have hheld : s.held = none := by
      cases hheld : s.held with
      | none => rfl
      | some c => exact absurd (isOpen_iff.2 ⟨c, hheld⟩) hopen
    rw [read_of_not_held a hheld]

/-! ## Runs -/

theorem getElem?_reports (s : Session) (steps : List Step) (i : Nat) :
    (s.reports steps)[i]? = steps[i]?.map (s.after (steps.take i)).report := by
  induction steps generalizing s i with
  | nil => rfl
  | cons step steps ih =>
    cases i with
    | zero => rfl
    | succ i =>
      rw [reports_cons, List.getElem?_cons_succ, List.getElem?_cons_succ, List.take_succ_cons,
        after_cons, ih]

theorem after_take_succ (hstep : steps[i]? = some step) :
    s.after (steps.take (i + 1)) = ((s.after (steps.take i)).perform step).session := by
  rw [List.take_add_one, hstep, after_append]
  rfl

theorem connectsAt_iff : s.ConnectsAt steps i ↔
    steps[i]? = some .connect ∧
      ((s.after (steps.take i)).perform .connect).result = .ok .done := by
  rw [ConnectsAt]
  refine and_congr_right fun hstep => ?_
  rw [getElem?_reports, hstep, Option.map_some]
  simp only [Option.some.injEq, exists_eq_left']
  rfl

theorem connectsAt_cons_zero :
    s.ConnectsAt (step :: steps) 0 ↔ step = .connect ∧ (s.perform step).result = .ok .done := by
  rw [connectsAt_iff]
  simp only [List.getElem?_cons_zero, Option.some.injEq, List.take_zero, after_nil]
  refine and_congr_right fun hstep => ?_
  rw [hstep]

theorem connectsAt_cons_succ :
    s.ConnectsAt (step :: steps) (i + 1) ↔ (s.perform step).session.ConnectsAt steps i := by
  rw [connectsAt_iff, connectsAt_iff, List.getElem?_cons_succ, List.take_succ_cons, after_cons]

theorem connectsAt_take_iff {n : Nat} :
    s.ConnectsAt (steps.take n) i ↔ i < n ∧ s.ConnectsAt steps i := by
  rw [connectsAt_iff, connectsAt_iff, List.getElem?_take, List.take_take]
  by_cases hi : i < n
  · rw [if_pos hi, Nat.min_eq_left (Nat.le_of_lt hi)]
    simp only [hi, true_and]
  · simp [hi]

/-- A session is open exactly if it was so at first or has made a connection since. -/
theorem isOpen_after_iff (s : Session) (steps : List Step) :
    (s.after steps).isOpen = true ↔ s.isOpen = true ∨ ∃ i, s.ConnectsAt steps i := by
  induction steps generalizing s with
  | nil => simp [ConnectsAt]
  | cons step steps ih =>
    have hzero : s.ConnectsAt (step :: steps) 0 ↔ _ := connectsAt_cons_zero
    rw [after_cons, ih, isOpen_perform_iff, ← hzero, or_assoc]
    refine or_congr_right ?_
    constructor
    · rintro (h | ⟨i, h⟩)
      · exact ⟨0, h⟩
      · exact ⟨i + 1, connectsAt_cons_succ.2 h⟩
    · rintro ⟨i, h⟩
      cases i with
      | zero => exact .inl h
      | succ i => exact .inr ⟨i, connectsAt_cons_succ.1 h⟩

theorem isOpen_take_iff (settings : Settings) (network : Network) (steps : List Step) (n : Nat) :
    ((start settings network).after (steps.take n)).isOpen = true ↔
      ∃ i < n, (start settings network).ConnectsAt steps i := by
  have hclosed := not_isOpen_start settings network
  rw [isOpen_after_iff, or_iff_right hclosed]
  exact exists_congr fun i => connectsAt_take_iff

/-! ## Steps that only look -/

theorem session_of_looks (h : step.looks = true) : (s.perform step).session = s := by
  cases step with
  | connect | read a => cases h
  | isOpen | settings => rfl

/-- Leaving out steps that only look changes what is told of no other step, and not the session. -/
theorem reports_chosen (s : Session) {kept : List Bool} {steps : List Step}
    (h : List.Forall₂ (fun keep step => keep = true ∨ Step.looks step = true) kept steps) :
    s.reports (chosen kept steps) = chosen kept (s.reports steps) ∧
      s.after (chosen kept steps) = s.after steps := by
  induction h generalizing s with
  | nil => exact ⟨rfl, rfl⟩
  | @cons keep step kept steps hstep _ ih =>
    rw [reports_cons]
    cases keep with
    | true =>
      obtain ⟨hreports, hafter⟩ := ih (s.perform step).session
      rw [chosen_true, chosen_true, reports_cons, hreports]
      exact ⟨rfl, hafter⟩
    | false =>
      have hsame := session_of_looks (s := s) (hstep.resolve_left Bool.false_ne_true)
      obtain ⟨hreports, hafter⟩ := ih s
      rw [chosen_false, chosen_false, after_cons, hsame]
      exact ⟨hreports, hafter⟩

/-! ## Main statement -/

/-- A session is open from the first connection that it makes on. After each step it is open exactly
if this step or one before it made a connection, and open it stays. A read tells that there is no
connection exactly if no step before it made one; it then writes nothing into the journal and leaves
the session, its servers included, as it was. A step that asks for the settings is shown those that
the session began with. Whichever steps that only look are left out or put in, the other steps end
as before, with the same events in the journal, and the servers take the same requests. -/
theorem open_from_first_connection (settings : Settings) (network : Network) (steps : List Step) :
    let s := start settings network
    (∀ i r, (s.reports steps)[i]? = some r →
      (r.isOpen = true ↔ ∃ j ≤ i, s.ConnectsAt steps j) ∧
      (∀ k later, i ≤ k → (s.reports steps)[k]? = some later →
        r.isOpen = true → later.isOpen = true) ∧
      (∀ a, steps[i]? = some (.read a) →
        (r.result = .error .notConnected ↔ ¬∃ j < i, s.ConnectsAt steps j) ∧
        (r.result = .error .notConnected →
          r.log = [] ∧ s.after (steps.take (i + 1)) = s.after (steps.take i))) ∧
      (steps[i]? = some .isOpen → r.result = .ok (.flag r.isOpen)) ∧
      (steps[i]? = some .settings → r.result = .ok (.settings settings))) ∧
    ∀ kept : List Bool,
      List.Forall₂ (fun keep step => keep = true ∨ Step.looks step = true) kept steps →
      s.reports (chosen kept steps) = chosen kept (s.reports steps) ∧
        (s.after (chosen kept steps)).requests = (s.after steps).requests := by
  intro s
  have hopen : ∀ i r, (s.reports steps)[i]? = some r →
      (r.isOpen = true ↔ ∃ j ≤ i, s.ConnectsAt steps j) := by
    intro i r hr
    rw [getElem?_reports] at hr
    obtain ⟨step, hstep, rfl⟩ := Option.map_eq_some_iff.1 hr
    have hafter := isOpen_take_iff settings network steps (i + 1)
    rw [after_take_succ hstep] at hafter
    simp only [Nat.lt_succ_iff] at hafter
    exact hafter
  refine ⟨fun i r hr => ⟨hopen i r hr, ?_, ?_, ?_, ?_⟩, fun kept hkept => ?_⟩
  · intro k later hik hlater hr'
    obtain ⟨j, hj, hconnects⟩ := (hopen i r hr).1 hr'
    exact (hopen k later hlater).2 ⟨j, Nat.le_trans hj hik, hconnects⟩
  · intro a hstep
    rw [getElem?_reports, hstep, Option.map_some] at hr
    cases hr
    have hiff : ((s.after (steps.take i)).report (.read a)).result = .error .notConnected ↔
        ¬(s.after (steps.take i)).isOpen = true := by
      rw [← read_notConnected_iff _ a]
      show ((s.after (steps.take i)).read a).result.map StepValue.coil = _ ↔ _
      cases ((s.after (steps.take i)).read a).result with
      | error f => rw [Except.map, Except.error.injEq, Except.error.injEq]
      | ok value => exact ⟨nofun, nofun⟩
    refine ⟨hiff.trans (not_congr (isOpen_take_iff settings network steps i)), fun hnone => ?_⟩
    have hheld : (s.after (steps.take i)).held = none := by
      simpa [isOpen] using hiff.1 hnone
    have hread := read_of_not_held a hheld
    rw [after_take_succ hstep]
    simp only [report, perform, hread, and_self]
  · intro hstep
    rw [getElem?_reports, hstep] at hr
    cases hr
    rfl
  · intro hstep
    rw [getElem?_reports, hstep] at hr
    cases hr
    show Except.ok (StepValue.settings (s.after (steps.take i)).settings) = _
    rw [settings_after]
    rfl
  · obtain ⟨hreports, hafter⟩ := s.reports_chosen hkept
    exact ⟨hreports, congrArg requests hafter⟩

/-- A session whose first attempt is refused and whose second one makes a connection, which is reset
during the read: it is open from then on, also after a third attempt that fails. -/
theorem open_from_first_connection_reset :
    let settings : Settings := { host := "10.0.0.1" }
    let network : Network :=
      { servers := [⟨.v4 ⟨10, 0, 0, 1⟩ 502, .refuse (.os 113)⟩,
          ⟨.v4 ⟨10, 0, 0, 1⟩ 502, .accept { replies := [.reset] }⟩] }
    let steps : List Step := [.read 1, .connect, .isOpen, .connect, .read 2, .settings, .connect]
    let kept := [true, true, false, true, true, false, true]
    let s := start settings network
    s.ConnectsAt steps 3 ∧
      (∃ r, (s.reports steps)[4]? = some r ∧
        r.result = .error (.transport (.io .connectionReset)) ∧ r.isOpen = true) ∧
      (∃ r, (s.reports steps)[6]? = some r ∧
        r.result = .error (.connect (.v4 ⟨10, 0, 0, 1⟩ 502) .connectionRefused) ∧
          r.isOpen = true) ∧
      s.reports [.read 1, .connect, .connect, .read 2, .connect] =
        chosen kept (s.reports steps) := by
  intro settings network steps kept s
  obtain ⟨hreports, hchosen⟩ := open_from_first_connection settings network steps
  have hconnects : s.ConnectsAt steps 3 := connectsAt_iff.2 ⟨rfl, by decide +kernel⟩
  have hread := hreports 4 _ (getElem?_reports s steps 4)
  have hlast := hreports 6 _ (getElem?_reports s steps 6)
  have hkept : List.Forall₂ (fun keep step => keep = true ∨ Step.looks step = true) kept steps := by
    decide
  refine ⟨hconnects, ⟨_, getElem?_reports s steps 4, by decide +kernel, ?_⟩,
    ⟨_, getElem?_reports s steps 6, by decide +kernel, ?_⟩, (hchosen kept hkept).1⟩
  · exact hread.1.2 ⟨3, by decide, hconnects⟩
  · exact hlast.1.2 ⟨3, by decide, hconnects⟩

end Session

end CoilProbe
