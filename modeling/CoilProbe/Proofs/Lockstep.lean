import CoilProbe.Proofs.Endings

/-!
# Sessions in lockstep

A session may be changed in a way that its steps do not notice, or of which they tell something that
is known beforehand. `Session.lockstep` says that a change which goes well with every step goes well
with every run, and `probe_lockstep` says the same of the two steps of a probe.
-/

namespace CoilProbe

namespace Session

/-! ## Runs -/

/-- If steps of changed sessions come to a change of what they come to otherwise, so do runs. The
change may be one for some sessions only, if steps lead to no others. -/
theorem lockstep {covered : Session → Prop} {change : Session → Session} {swap : Step → Step}
    {report : StepReport → StepReport}
    (hcovered : ∀ s step, covered s → covered (s.perform step).session)
    (hstep : ∀ s step, covered s → (change s).report (swap step) = report (s.report step) ∧
      ((change s).perform (swap step)).session = change (s.perform step).session)
    {s : Session} (hs : covered s) (steps : List Step) :
    (change s).reports (steps.map swap) = (s.reports steps).map report ∧
      (change s).after (steps.map swap) = change (s.after steps) := by
  induction steps generalizing s with
  | nil => exact ⟨rfl, rfl⟩
  | cons step steps ih =>
    obtain ⟨hreport, hsession⟩ := hstep s step hs
    obtain ⟨hreports, hafter⟩ := ih (hcovered s step hs)
    rw [List.map_cons, reports_cons, after_cons, hreport, hsession, hreports, hafter]
    exact ⟨rfl, rfl⟩

end Session

/-! ## Probes -/

/-- Something comes to what something else comes to, with another failure and another journal. -/
def Performed.Follows {α : Type} (fail : Failure → Failure) (note : Event → Event)
    (p p' : Performed α) : Prop :=
  p'.result = p.result.mapError fail ∧ p'.log = p.log.map note

theorem Written.mapError_outcome {fail : Failure → Failure}
    (houtput : ∀ fault, fail (.output fault) = .output fault) (w : Written)
    (outcome : Outcome) : (w.outcome outcome).mapError fail = w.outcome outcome := by
  rw [Written.outcome]
  cases w.fault with
  | none => rfl
  | some fault => exact congrArg Except.error (houtput fault)

/-- If connecting and reading under other settings follow what they are under given ones, and the
line that a probe writes without a connection is the same, a probe writes the same under both, and
what it comes to and its journal follow as well. -/
theorem probe_lockstep {settings settings' : Settings} {network : Network} (sink : Sink)
    {fail : Failure → Failure} {note : Event → Event}
    (houtput : ∀ fault, fail (.output fault) = .output fault)
    (hline : settings'.noConnection = settings.noConnection)
    (hrefused : ∀ f, note (.noConnection settings.target f) =
      .noConnection settings'.target (fail f))
    (hcoil : ∀ value, note (.coil settings.address settings.target value) =
      .coil settings'.address settings'.target value)
    (hconnect : Performed.Follows fail note (Session.start settings network).connect
      (Session.start settings' network).connect)
    (hread : Performed.Follows fail note
      ((Session.start settings network).connect.session.read settings.address)
      ((Session.start settings' network).connect.session.read settings'.address)) :
    (probe settings' network sink).result = (probe settings network sink).result.mapError fail ∧
      (probe settings' network sink).sink = (probe settings network sink).sink ∧
      (probe settings' network sink).log = (probe settings network sink).log.map note := by
  obtain ⟨hconnect, hconnectLog⟩ := hconnect
  obtain ⟨hread, hreadLog⟩ := hread
  cases hc : (Session.start settings network).connect.result with
  | error f =>
    rw [hc] at hconnect
    rw [probe_of_refused hc, probe_of_refused hconnect, hline, hconnectLog, List.map_append,
      List.map_singleton, hrefused]
    exact ⟨(Written.mapError_outcome houtput _ _).symm, rfl, rfl⟩
  | ok u =>
    rw [hc] at hconnect
    cases hr : ((Session.start settings network).connect.session.read settings.address).result with
    | error f =>
      rw [hr] at hread
      rw [probe_of_unread hc hr, probe_of_unread hconnect hread, hconnectLog, hreadLog,
        List.map_append]
      exact ⟨rfl, rfl, rfl⟩
    | ok value =>
      rw [hr] at hread
      rw [probe_of_read hc hr, probe_of_read hconnect hread, hconnectLog, hreadLog,
        List.map_append, List.map_append, List.map_singleton, hcoil]
      exact ⟨(Written.mapError_outcome houtput _ _).symm, rfl, rfl⟩

end CoilProbe
