import CoilProbe.Proofs.Reads

/-!
# What a step can see

Apart from making a connection, a step sees the settings of its session and the connection that is
held, and nothing else. So two sessions that agree in these tell the same of the same steps,
whatever has become of their servers and of the connections that they held before: `agree_of_view`.
What the step does to those other connections is to let their servers have the turns that it waits
for, which is `past_after` and `mem_past_after`.
-/

namespace CoilProbe

theorem Peer.afterTurns_add (m n : Nat) (p : Peer) :
    p.afterTurns (m + n) = (p.afterTurns m).afterTurns n := by
  induction m generalizing p with
  | zero => rw [Nat.zero_add]; rfl
  | succ m ih =>
    rw [Nat.succ_add]
    exact ih p.turn

theorem Holding.afterTurns_add (m n : Nat) (c : Holding) :
    c.afterTurns (m + n) = (c.afterTurns m).afterTurns n := by
  simp only [afterTurns, Link.afterTurns, Peer.afterTurns_add]

namespace Session

/-- What a step other than making a connection can see of a session. -/
def view (s : Session) : Settings × Option Holding := (s.settings, s.held)

/-- How many turns the servers have while a step waits. -/
def turnsOf (s : Session) : Step → Nat
  | .read a => s.held.elim 0 fun c => (c.link.exchange a).turns
  | .connect | .isOpen | .settings => 0

/-- How many turns the servers have during some steps. -/
def turns (s : Session) : List Step → Nat
  | [] => 0
  | step :: steps => s.turnsOf step + (s.perform step).session.turns steps

/-! ## Sessions that look the same -/

variable {s t : Session} {step : Step} {steps : List Step}

theorem view_eq_iff : s.view = t.view ↔ s.settings = t.settings ∧ s.held = t.held := by
  rw [view, view, Prod.mk.injEq]

/-- A step that makes no connection tells the same of two sessions that look the same, makes their
servers have equally many turns, and leaves two sessions that look the same. -/
theorem agree_of_view_step (h : s.view = t.view) (hstep : step ≠ .connect) :
    s.report step = t.report step ∧ s.turnsOf step = t.turnsOf step ∧
      (s.perform step).session.view = (t.perform step).session.view := by
  obtain ⟨hsettings, hheld⟩ := view_eq_iff.1 h
  cases step with
  | connect => exact absurd rfl hstep
  | isOpen =>
    have hopen : s.isOpen = t.isOpen := congrArg Option.isSome hheld
    exact ⟨by simp only [report, perform, hopen], rfl, h⟩
  | settings =>
    have hopen : s.isOpen = t.isOpen := congrArg Option.isSome hheld
    exact ⟨by simp only [report, perform, hopen, hsettings], rfl, h⟩
  | read a =>
    cases hs : s.held with
    | none =>
      have ht : t.held = none := hheld.symm.trans hs
      simp only [report, perform, turnsOf, read_of_not_held a hs, read_of_not_held a ht, isOpen, hs,
        ht, h, and_self]
    | some c =>
      have ht : t.held = some c := hheld.symm.trans hs
      simp only [report, perform, turnsOf, read_of_held a hs, read_of_held a ht, isOpen, view, hs,
        ht, hsettings, and_self]

/-- Steps that make no connection tell the same of two sessions that look the same. -/
theorem agree_of_view (h : s.view = t.view) (hsteps : Step.connect ∉ steps) :
    s.reports steps = t.reports steps ∧ s.turns steps = t.turns steps ∧
      (s.after steps).view = (t.after steps).view := by
  induction steps generalizing s t with
  | nil => exact ⟨rfl, rfl, h⟩
  | cons step steps ih =>
    rw [List.mem_cons, not_or] at hsteps
    obtain ⟨hfirst, hlater⟩ := hsteps
    obtain ⟨hreport, hturns, hview⟩ := agree_of_view_step h (Ne.symm hfirst)
    obtain ⟨hreports, hmore, hafter⟩ := ih hview hlater
    exact ⟨by rw [reports_cons, reports_cons, hreport, hreports],
      by rw [turns, turns, hturns, hmore], hafter⟩

/-- Failing to make a connection is not to be seen in the session. -/
theorem of_refused {f : Failure} (h : s.connect.result = .error f) :
    s.connect.session.view = s.view ∧ s.connect.session.past = s.past := by
  obtain ⟨log, places, hc⟩ := connect_of_error h
  rw [hc]
  exact ⟨rfl, rfl⟩

theorem roster_perform (s : Session) (hstep : step ≠ .connect) :
    (s.perform step).session.roster = s.roster := by
  cases step with
  | connect => exact absurd rfl hstep
  | isOpen => rfl
  | settings => rfl
  | read a =>
    cases hheld : s.held with
    | none => simp only [perform, read_of_not_held a hheld]
    | some c => simp only [perform, read_of_held a hheld]

theorem roster_after (s : Session) (hsteps : Step.connect ∉ steps) :
    (s.after steps).roster = s.roster := by
  induction steps generalizing s with
  | nil => rfl
  | cons step steps ih =>
    rw [List.mem_cons, not_or] at hsteps
    obtain ⟨hfirst, hlater⟩ := hsteps
    rw [after_cons, ih _ hlater, s.roster_perform (Ne.symm hfirst)]

/-- A step that makes no connection leaves the one that is held in hand. -/
theorem place_perform (s : Session) (hstep : step ≠ .connect) :
    (s.perform step).session.held.map Holding.place = s.held.map Holding.place := by
  cases step with
  | connect => exact absurd rfl hstep
  | isOpen => rfl
  | settings => rfl
  | read a =>
    cases hheld : s.held with
    | none => simp only [perform, read_of_not_held a hheld, hheld]
    | some c => simp only [perform, read_of_held a hheld, Option.map_some]

/-! ## Connections held before -/

theorem past_perform (s : Session) (hstep : step ≠ .connect) :
    (s.perform step).session.past = s.past.map (·.afterTurns (s.turnsOf step)) := by
  have hsame : s.past = s.past.map (·.afterTurns 0) := (List.map_id s.past).symm
  cases step with
  | connect => exact absurd rfl hstep
  | isOpen => exact hsame
  | settings => exact hsame
  | read a =>
    cases hheld : s.held with
    | none =>
      simp only [perform, read_of_not_held a hheld, turnsOf, hheld]
      exact hsame
    | some c => simp only [perform, read_of_held a hheld, turnsOf, hheld, Option.elim]

/-- While no connection is made, the connections held before stay the same, and their servers have
their turns. -/
theorem past_after (s : Session) (hsteps : Step.connect ∉ steps) :
    (s.after steps).past = s.past.map (·.afterTurns (s.turns steps)) := by
  induction steps generalizing s with
  | nil => exact (List.map_id s.past).symm
  | cons step steps ih =>
    rw [List.mem_cons, not_or] at hsteps
    obtain ⟨hfirst, hlater⟩ := hsteps
    rw [after_cons, ih _ hlater, s.past_perform (Ne.symm hfirst), List.map_map, turns]
    simp only [Function.comp_def, Holding.afterTurns_add]

/-- A connection held before is kept, and its server has its turns, also while connections are
made. -/
theorem mem_past_after {c : Holding} (hc : c ∈ s.past) (steps : List Step) :
    c.afterTurns (s.turns steps) ∈ (s.after steps).past := by
  induction steps generalizing s c with
  | nil => exact hc
  | cons step steps ih =>
    have hkept : c.afterTurns (s.turnsOf step) ∈ (s.perform step).session.past := by
      by_cases hstep : step = .connect
      · subst hstep
        rcases s.connect_cases with ⟨f, log, places, hconnect⟩ |
          ⟨place, service, slot, log, places, hconnect, -⟩
        · simp only [perform, hconnect]
          exact hc
        · simp only [perform, hconnect]
          exact List.mem_append_right _ hc
      · rw [s.past_perform hstep]
        exact List.mem_map_of_mem hc
    have hlater := ih hkept
    rw [← Holding.afterTurns_add] at hlater
    exact hlater

end Session

end CoilProbe
