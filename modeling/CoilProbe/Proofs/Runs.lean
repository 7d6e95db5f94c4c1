import CoilProbe.Proofs.Attempts

/-!
# Runs of a session

What the steps of a session can do, and how a run is put together from them. Making a connection is
taken apart by what the lookup comes to; where it finds addresses, `searched` is what the search
among them leads to. `connect_cases` lists the ways in which it ends, and `read_of_held` and
`read_of_not_held` say what a read does; `after_induction` turns what every step preserves into what
every run preserves.
-/

namespace CoilProbe

namespace Session

/-! ## Connecting, by what the lookup comes to -/

variable {s : Session} {ips : List IPAddress} {as : List SocketAddress}

theorem connect_of_late
    (hres : s.names.resolve s.settings.host s.settings.timeout.toNat = .late) :
    s.connect = ⟨.error (.timedOut s.settings.timeout), [], s⟩ := by
  simp only [connect, hres]

theorem connect_of_failed {fault : IoFault}
    (hres : s.names.resolve s.settings.host s.settings.timeout.toNat = .failed fault) :
    s.connect = ⟨.error (.lookup s.settings.host fault), [], s⟩ := by
  simp only [connect, hres]

/-- What a session comes to whose search among the servers has come to an end. -/
def searched (s : Session) (search : Search) : Performed Unit :=
  match search.result with
  | .ok found => ⟨.ok (), search.log, hold found.1 found.2 { s with roster := search.roster }⟩
  | .error failure => ⟨.error failure, search.log, { s with roster := search.roster }⟩

theorem connect_of_found
    (hres : s.names.resolve s.settings.host s.settings.timeout.toNat = .found ips) :
    s.connect = s.searched (s.roster.search s.settings (.noAddress s.settings.host)
      (targets s.settings ips)) := by
  simp only [connect, hres, searched]
  split <;> simp only [*]

/-! ## Steps -/

/-- If an attempt is accepted, the session holds the connection made by the first such attempt, and
has made no attempt after it. -/
theorem connect_of_accepted {i place : Nat} {service : Service}
    (hres : s.names.resolve s.settings.host s.settings.timeout.toNat = .found ips)
    (has : targets s.settings ips = as) (hi : i < as.length)
    (hacc : s.roster.trial as i = .accepted place service)
    (hbefore : ∀ j < i, (s.roster.trial as j).accepts = false) :
    s.connect = ⟨.ok (), s.roster.trialLog s.settings as (i + 1),
      { s with
        roster := s.roster.afterTrials as (i + 1)
        held := some ⟨place, .connect s.settings.unit service⟩
        past := s.held.toList ++ s.past }⟩ := by
  have hsearch := Roster.search_of_accepted s.settings as (.noAddress s.settings.host) s.roster i
    place service hi hacc hbefore
  rw [connect_of_found hres, has, hsearch]
  rfl

/-- If no attempt is accepted, all are made, and the last one says why there is no connection. -/
theorem connect_of_refused
    (hres : s.names.resolve s.settings.host s.settings.timeout.toNat = .found ips)
    (has : targets s.settings ips = as)
    (hall : ∀ i < as.length, (s.roster.trial as i).accepts = false) :
    s.connect =
      ⟨.error (s.roster.lastFailure s.settings (.noAddress s.settings.host) as),
        s.roster.trialLog s.settings as as.length,
        { s with roster := s.roster.afterTrials as as.length }⟩ := by
  have hsearch := Roster.search_of_refused s.settings as (.noAddress s.settings.host) s.roster hall
  rw [connect_of_found hres, has, hsearch]
  rfl

/-- Making a connection either fails, and then changes nothing but which servers have had their
attempt, or it puts a new connection to a server that had no attempt before in the place of the one
that was held. -/
theorem connect_cases (s : Session) :
    (∃ f log places, s.connect = ⟨.error f, log, { s with roster := s.roster.spend places }⟩) ∨
    (∃ place service slot log places,
      s.connect = ⟨.ok (), log,
        { s with
          roster := s.roster.spend places
          held := some ⟨place, .connect s.settings.unit service⟩
          past := s.held.toList ++ s.past }⟩ ∧
      place ∈ places ∧ s.roster[place]? = some slot ∧ slot.used = false ∧
      slot.server.admission = .accept service) := by
  cases hres : s.names.resolve s.settings.host s.settings.timeout.toNat with
  | late =>
    exact .inl ⟨_, _, [], by rw [connect_of_late hres, Roster.spend_nil]⟩
  | failed fault =>
    exact .inl ⟨_, _, [], by rw [connect_of_failed hres, Roster.spend_nil]⟩
  | found ips =>
    rcases Roster.trial_cases (targets s.settings ips) s.roster with
      ⟨i, place, service, hi, hacc, hbefore⟩ | hall
    · obtain ⟨slot, hfor, hslot, hused, hadm⟩ := Roster.of_trial_accepted hacc
      refine .inr ⟨place, service, slot, _, _, connect_of_accepted hres rfl hi hacc hbefore, ?_,
        hslot, hused, hadm⟩
      refine List.mem_filterMap.2 ⟨i, List.mem_range.2 (Nat.lt_succ_self i), ?_⟩
      rw [hfor]
      rfl
    · exact .inl ⟨_, _, _, connect_of_refused hres rfl hall⟩

/-- Failing to make a connection changes nothing but which servers have had their attempt. -/
theorem connect_of_error {f : Failure} (h : s.connect.result = .error f) :
    ∃ log places, s.connect = ⟨.error f, log, { s with roster := s.roster.spend places }⟩ := by
  rcases s.connect_cases with ⟨g, log, places, hc⟩ | ⟨place, service, slot, log, places, hc, -⟩
  · rw [hc] at h
    cases h
    exact ⟨log, places, hc⟩
  · rw [hc] at h
    cases h

theorem read_of_held {h : Holding} (a : UInt16) (hheld : s.held = some h) :
    s.read a =
      ⟨coilOf s.settings.timeout (h.link.exchange a).answer, [.reading a],
        { s with
          held := some { h with link := (h.link.exchange a).link }
          past := s.past.map (·.afterTurns (h.link.exchange a).turns) }⟩ := by
  simp only [read, hheld]

theorem read_of_not_held (a : UInt16) (hheld : s.held = none) :
    s.read a = ⟨.error .notConnected, [], s⟩ := by
  simp only [read, hheld]

/-! ## Runs -/

@[simp] theorem after_nil (s : Session) : s.after [] = s := rfl

@[simp] theorem after_cons (s : Session) (step : Step) (steps : List Step) :
    s.after (step :: steps) = (s.perform step).session.after steps := rfl

/-- What every step preserves is true after every run. -/
theorem after_induction (P : Session → Prop)
    (hstep : ∀ s step, P s → P (s.perform step).session) {s : Session} (h : P s)
    (steps : List Step) : P (s.after steps) := by
  induction steps generalizing s with
  | nil => exact h
  | cons step steps ih => exact ih (hstep s step h)

/-- What is known after a step. -/
def report (s : Session) (step : Step) : StepReport :=
  ⟨(s.perform step).result, (s.perform step).session.isOpen, (s.perform step).log⟩

theorem reports_cons (s : Session) (step : Step) (steps : List Step) :
    s.reports (step :: steps) = s.report step :: (s.perform step).session.reports steps := rfl

theorem length_reports (s : Session) (steps : List Step) :
    (s.reports steps).length = steps.length := by
  induction steps generalizing s with
  | nil => rfl
  | cons step steps ih => rw [reports_cons, List.length_cons, List.length_cons, ih]

theorem after_append (s : Session) (pre post : List Step) :
    s.after (pre ++ post) = (s.after pre).after post := List.foldl_append

theorem reports_append (s : Session) (pre post : List Step) :
    s.reports (pre ++ post) = s.reports pre ++ (s.after pre).reports post := by
  induction pre generalizing s with
  | nil => rfl
  | cons step pre ih =>
    rw [List.cons_append, reports_cons, reports_cons, ih, List.cons_append, after_cons]

/-- The journal of a run. -/
def journal (s : Session) (steps : List Step) : List Event :=
  (s.reports steps).flatMap StepReport.log

@[simp] theorem journal_cons (s : Session) (step : Step) (steps : List Step) :
    s.journal (step :: steps) =
      (s.perform step).log ++ (s.perform step).session.journal steps := rfl

/-- A session keeps its settings and the host names that it knows. -/
theorem perform_keeps (s : Session) (step : Step) :
    (s.perform step).session.settings = s.settings ∧ (s.perform step).session.names = s.names := by
  cases step with
  | connect =>
    rcases s.connect_cases with ⟨f, log, places, h⟩ | ⟨place, service, slot, log, places, h, -⟩
    · rw [perform, h]
      exact ⟨rfl, rfl⟩
    · rw [perform, h]
      exact ⟨rfl, rfl⟩
  | isOpen => exact ⟨rfl, rfl⟩
  | settings => exact ⟨rfl, rfl⟩
  | read a =>
    cases hheld : s.held with
    | none =>
      rw [perform, read_of_not_held a hheld]
      exact ⟨rfl, rfl⟩
    | some h =>
      rw [perform, read_of_held a hheld]
      exact ⟨rfl, rfl⟩

theorem settings_perform (s : Session) (step : Step) :
    (s.perform step).session.settings = s.settings :=
  (s.perform_keeps step).1

theorem names_perform (s : Session) (step : Step) : (s.perform step).session.names = s.names :=
  (s.perform_keeps step).2

theorem settings_after (s : Session) (steps : List Step) :
    (s.after steps).settings = s.settings :=
  after_induction (fun t => t.settings = s.settings)
    (fun t step ht => (settings_perform t step).trans ht) rfl steps

end Session

end CoilProbe
