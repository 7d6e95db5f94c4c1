import CoilProbe.Proofs.Lockstep
import CoilProbe.Proofs.Probes

/-!
# What a timeout does

A timeout is a number that is told to the user. Which operation takes too long is a matter of the
network alone, unless a host name is answered late. So a session with another timeout goes on in
the same way and tells the other number in the places where it told the first one
(`timeout_is_only_told`).
-/

namespace CoilProbe

/-! ## Telling another timeout -/

def Settings.retimed (t : UInt64) (s : Settings) : Settings := { s with timeout := t }

def Failure.retimed (t : UInt64) : Failure → Failure
  | .timedOut _ => .timedOut t
  | f => f

def Event.retimed (t : UInt64) : Event → Event
  | .connectTimedOut a _ => .connectTimedOut a t
  | .noConnection target f => .noConnection target (f.retimed t)
  | e => e

def StepValue.retimed (t : UInt64) : StepValue → StepValue
  | .settings s => .settings (s.retimed t)
  | v => v

def StepReport.retimed (t : UInt64) (r : StepReport) : StepReport :=
  { r with
    result := (r.result.map (StepValue.retimed t)).mapError (Failure.retimed t)
    log := r.log.map (Event.retimed t) }

def Session.retimed (t : UInt64) (s : Session) : Session :=
  { s with settings := s.settings.retimed t }

def Performed.retimed {α : Type} (t : UInt64) (p : Performed α) : Performed α :=
  ⟨p.result.mapError (Failure.retimed t), p.log.map (Event.retimed t), p.session.retimed t⟩

def Search.retimed (t : UInt64) (search : Search) : Search :=
  { search with
    result := search.result.mapError (Failure.retimed t)
    log := search.log.map (Event.retimed t) }

def Probe.retimed (t : UInt64) (p : Probe) : Probe :=
  { p with
    result := p.result.mapError (Failure.retimed t)
    log := p.log.map (Event.retimed t)
    session := p.session.retimed t }

/-- The host names of a table are all answered at once. -/
def NameTable.Prompt (names : NameTable) : Prop := ∀ entry ∈ names, entry.2.delay = 0

variable {t : UInt64}

theorem NameTable.resolve_of_prompt {names : NameTable} (h : names.Prompt) (host : String)
    (limit limit' : Nat) : names.resolve host limit = names.resolve host limit' := by
  have hdelay (entry : Lookup) (hentry : names.lookup host = some entry) : entry.delay = 0 := by
    obtain ⟨before, after, hnames, -⟩ := List.lookup_eq_some_iff.1 hentry
    exact h (host, entry) (by rw [hnames]; simp)
  unfold resolve
  cases IPAddress.parse? host with
  | some ip => rfl
  | none =>
    cases hentry : names.lookup host with
    | none => rfl
    | some entry => simp only [hdelay entry hentry, Nat.not_lt_zero, if_false]

theorem Performed.follows_retimed {α : Type} (p : Performed α) :
    p.Follows (Failure.retimed t) (Event.retimed t) (p.retimed t) :=
  ⟨rfl, rfl⟩

/-! ## Attempts -/

theorem Attempt.retimed_events (s : Settings) (a : SocketAddress) (r : Attempt) :
    r.events (s.retimed t) a = (r.events s a).map (Event.retimed t) := by
  cases r <;> rfl

theorem Attempt.retimed_failure (s : Settings) (a : SocketAddress) (f : Failure) (r : Attempt) :
    (r.failure (s.retimed t) a).getD (f.retimed t) = ((r.failure s a).getD f).retimed t := by
  cases r <;> rfl

theorem Roster.search_retimed (s : Settings) (f : Failure) (as : List SocketAddress) (r : Roster) :
    r.search (s.retimed t) (f.retimed t) as = (r.search s f as).retimed t := by
  induction as generalizing f r with
  | nil => rfl
  | cons a as ih =>
    rw [search_cons, search_cons]
    cases (r.attempt a).1 with
    | accepted place service => rfl
    | failed fault | hung =>
      simp only [Attempt.retimed_failure, Attempt.retimed_events, ih, Search.retimed,
        List.map_append]

/-! ## Sessions -/

namespace Session

theorem searched_retimed (s : Session) (search : Search) :
    (s.retimed t).searched (search.retimed t) = (s.searched search).retimed t := by
  unfold searched Search.retimed
  cases search.result <;> rfl

theorem connect_retimed {s : Session} (hs : s.names.Prompt) :
    (s.retimed t).connect = s.connect.retimed t := by
  have hresolve : (s.retimed t).names.resolve (s.retimed t).settings.host
      (s.retimed t).settings.timeout.toNat =
        s.names.resolve s.settings.host s.settings.timeout.toNat :=
    NameTable.resolve_of_prompt hs _ _ _
  cases hres : s.names.resolve s.settings.host s.settings.timeout.toNat with
  | late => rw [connect_of_late hres, connect_of_late (hresolve.trans hres)]; rfl
  | failed fault => rw [connect_of_failed hres, connect_of_failed (hresolve.trans hres)]; rfl
  | found ips =>
    have hsearch := s.roster.search_retimed (t := t) s.settings (.noAddress s.settings.host)
      (targets s.settings ips)
    rw [connect_of_found hres, connect_of_found (hresolve.trans hres), ← searched_retimed,
      ← hsearch]
    rfl

theorem coilOf_retimed (own : UInt64) (ans : Answer) :
    coilOf t ans = (coilOf own ans).mapError (Failure.retimed t) := by
  unfold coilOf
  split <;> rfl

theorem read_retimed (s : Session) (a : UInt16) :
    (s.retimed t).read a = (s.read a).retimed t := by
  cases hheld : s.held with
  | none =>
    have hheld' : (s.retimed t).held = none := hheld
    rw [read_of_not_held a hheld, read_of_not_held a hheld']
    rfl
  | some c =>
    have hheld' : (s.retimed t).held = some c := hheld
    have htimeout : (s.retimed t).settings.timeout = t := rfl
    rw [read_of_held a hheld, read_of_held a hheld', htimeout, coilOf_retimed s.settings.timeout]
    rfl

theorem step_retimed {s : Session} (hs : s.names.Prompt) (step : Step) :
    (s.retimed t).report step = (s.report step).retimed t ∧
      ((s.retimed t).perform step).session = (s.perform step).session.retimed t := by
  cases step with
  | connect =>
    simp only [report, perform, connect_retimed hs, Performed.retimed, StepReport.retimed]
    cases s.connect.result <;> exact ⟨rfl, trivial⟩
  | isOpen | settings => exact ⟨rfl, rfl⟩
  | read a =>
    simp only [report, perform, read_retimed, Performed.retimed, StepReport.retimed]
    cases (s.read a).result <;> exact ⟨rfl, trivial⟩

/-- A session with another timeout goes on in the same way. -/
theorem run_retimed {s : Session} (hs : s.names.Prompt) (steps : List Step) :
    (s.retimed t).reports steps = (s.reports steps).map (StepReport.retimed t) ∧
      (s.retimed t).after steps = (s.after steps).retimed t := by
  have hprompt (s : Session) (step : Step) (hs : s.names.Prompt) :
      (s.perform step).session.names.Prompt := by
    rw [names_perform]
    exact hs
  have hrun : (s.retimed t).reports (steps.map id) = (s.reports steps).map (StepReport.retimed t) ∧
      (s.retimed t).after (steps.map id) = (s.after steps).retimed t :=
    lockstep hprompt (fun s step hs => step_retimed hs step) hs steps
  rwa [List.map_id] at hrun

/-- What the reports of a session tell of a timeout, they tell of its own. -/
theorem retimed_of_mem_reports {s : Session} (hs : s.names.Prompt) {steps : List Step}
    {r : StepReport} (hr : r ∈ s.reports steps) : r.retimed s.settings.timeout = r := by
  -- With its own timeout a session is what it was, so its reports are their own change.
  have hown : s.retimed s.settings.timeout = s := rfl
  obtain ⟨hreports, -⟩ := run_retimed (t := s.settings.timeout) hs steps
  rw [hown, ← List.map_id (s.reports steps), List.map_map] at hreports
  exact (List.map_inj_left.1 hreports r hr).symm

end Session

/-! ## Probes -/

/-- A probe with another timeout goes on in the same way. -/
theorem probe_retimed {settings : Settings} {network : Network} (hprompt : network.names.Prompt)
    (sink : Sink) :
    probe (settings.retimed t) network sink = (probe settings network sink).retimed t := by
  have hs : (Session.start settings network).names.Prompt := hprompt
  have hstart : Session.start (settings.retimed t) network =
      (Session.start settings network).retimed t := rfl
  have hconnect : (Session.start settings network).connect.Follows (Failure.retimed t)
      (Event.retimed t) (Session.start (settings.retimed t) network).connect := by
    rw [hstart, Session.connect_retimed hs]
    exact Performed.follows_retimed _
  have hread : ((Session.start settings network).connect.session.read settings.address).Follows
      (Failure.retimed t) (Event.retimed t)
      ((Session.start (settings.retimed t) network).connect.session.read
        (settings.retimed t).address) := by
    rw [hstart, Session.connect_retimed hs]
    show Performed.Follows _ _ _ ((Session.retimed t _).read settings.address)
    rw [Session.read_retimed]
    exact Performed.follows_retimed _
  have hline : (settings.retimed t).noConnection = settings.noConnection := rfl
  have hrefused (f : Failure) : Event.retimed t (.noConnection settings.target f) =
      .noConnection (settings.retimed t).target (f.retimed t) := rfl
  have hcoil (value : Bool) : Event.retimed t (.coil settings.address settings.target value) =
      .coil (settings.retimed t).address (settings.retimed t).target value := rfl
  have hsession : (probe (settings.retimed t) network sink).session =
      (probe settings network sink).session.retimed t := by
    rw [session_probe, session_probe]
    exact (Session.run_retimed hs _).2
  obtain ⟨hresult, hsink, hlog⟩ :=
    probe_lockstep sink (fun _ => rfl) hline hrefused hcoil hconnect hread
  rw [Probe.retimed, ← hresult, ← hlog, ← hsession, ← hsink]

/-! ## Main statement -/

theorem attempted_retimed (log : List Event) :
    attempted (log.map (Event.retimed t)) = attempted log := by
  have hsame : Event.attempted? ∘ Event.retimed t = Event.attempted? := by
    funext e
    cases e <;> rfl
  rw [attempted, attempted, List.filterMap_map, hsame]

theorem exitStatus_mapError {ε ε' : Type} (change : ε → ε') (result : Except ε Outcome) :
    exitStatus (result.mapError change) = exitStatus result := by
  cases result <;> rfl

/-- If every host name is answered at once, a timeout is told and does nothing else. Two sessions
whose settings differ in the timeout only report the same of each step, except that each tells its
own timeout: in the failures to do something in time, in the events of attempts that took too long,
and where it shows its settings. They make the same attempts and the servers take the same requests.
So do two probes, which also write the same and have the same exit status. -/
theorem timeout_is_only_told (settings : Settings) (network : Network) (t : UInt64)
    (hprompt : network.names.Prompt) :
    (∀ steps : List Step,
      let s := Session.start settings network
      let s' := Session.start { settings with timeout := t } network
      s'.reports steps = (s.reports steps).map (StepReport.retimed t) ∧
        (∀ r ∈ s.reports steps, ∀ t', r.result = .error (.timedOut t') → t' = settings.timeout) ∧
        attempted (s'.journal steps) = attempted (s.journal steps) ∧
        (s'.after steps).requests = (s.after steps).requests) ∧
    ∀ sink : Sink,
      let p := probe settings network sink
      let p' := probe { settings with timeout := t } network sink
      p'.result = p.result.mapError (Failure.retimed t) ∧
        (∀ t', p.result = .error (.timedOut t') → t' = settings.timeout) ∧
        p'.sink = p.sink ∧ exitStatus p'.result = exitStatus p.result ∧
        p'.log = p.log.map (Event.retimed t) ∧ attempted p'.log = attempted p.log ∧
        p'.requests = p.requests := by
  constructor
  · intro steps s s'
    have hs : s.names.Prompt := hprompt
    obtain ⟨hreports, hafter⟩ := Session.run_retimed (t := t) hs steps
    have hjournal : s'.journal steps = (s.journal steps).map (Event.retimed t) := by
      show (s'.reports steps).flatMap StepReport.log = _
      rw [show s'.reports steps = _ from hreports, List.flatMap_map, Session.journal,
        List.map_flatMap]
      rfl
    refine ⟨hreports, fun r hr t' ht' => ?_, ?_, ?_⟩
    · have hown := congrArg StepReport.result (Session.retimed_of_mem_reports hs hr)
      rw [StepReport.retimed, ht'] at hown
      cases hown
      rfl
    · rw [hjournal, attempted_retimed]
    · have hrequests := congrArg Session.requests hafter
      exact hrequests
  · intro sink p p'
    have hp : p' = p.retimed t := probe_retimed hprompt sink
    have hown : p.retimed settings.timeout = p := (probe_retimed hprompt sink).symm
    refine ⟨by rw [hp]; rfl, fun t' ht' => ?_, by rw [hp]; rfl, ?_, by rw [hp]; rfl, ?_, ?_⟩
    · have hresult := congrArg Probe.result hown
      rw [Probe.retimed, ht'] at hresult
      cases hresult
      rfl
    · rw [hp, Probe.retimed, exitStatus_mapError]
    · rw [hp, Probe.retimed, attempted_retimed]
    · rw [hp]
      rfl

/-- The longest timeout, and none at all: an attempt that never ends, and a read without answer. -/
theorem timeout_is_only_told_extremes :
    let settings : Settings := { host := "10.0.0.1", timeout := 0 }
    let settings' : Settings := { settings with timeout := 18446744073709551615 }
    let network : Network :=
      { servers := [⟨.v4 ⟨10, 0, 0, 1⟩ 502, .hang⟩, ⟨.v4 ⟨10, 0, 0, 1⟩ 502, .accept {}⟩] }
    let steps : List Step := [.connect, .connect, .read 7]
    network.names.Prompt ∧
      ((Session.start settings network).reports steps).map StepReport.result =
        [.error (.timedOut 0), .ok .done, .error (.timedOut 0)] ∧
      ((Session.start settings' network).reports steps).map StepReport.result =
        [.error (.timedOut 18446744073709551615), .ok .done,
          .error (.timedOut 18446744073709551615)] := by
  intro settings settings' network steps
  have hprompt : network.names.Prompt := by
    intro entry hentry
    cases hentry
  have hresults : ((Session.start settings network).reports steps).map StepReport.result =
      [.error (.timedOut 0), .ok .done, .error (.timedOut 0)] := by
    decide +kernel
  obtain ⟨hreports, -⟩ :=
    (timeout_is_only_told settings network 18446744073709551615 hprompt).1 steps
  refine ⟨hprompt, hresults, ?_⟩
  have hmap : StepReport.result ∘ StepReport.retimed 18446744073709551615 =
      (fun result => (result.map (StepValue.retimed 18446744073709551615)).mapError
        (Failure.retimed 18446744073709551615)) ∘ StepReport.result := rfl
  rw [hreports, List.map_map, hmap, ← List.map_map, hresults]
  rfl

end CoilProbe
