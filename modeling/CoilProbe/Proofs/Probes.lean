import CoilProbe.Probe
import CoilProbe.Proofs.Runs

/-!
# What a probe does

A probe goes by whether a connection is held. `probe_of_refused` and `probe_of_connected` say that
this comes to going by whether one could be made, and give the probe in either case; `probe_tells`
says what it writes, whatever its output; `session_probe` says that a probe leaves its session as one
connecting and one reading step do, and `log_probe` that its journal does not depend on its output.
-/

namespace CoilProbe

/-- The line that tells how a probe ended. -/
def Outcome.line (s : Settings) : Outcome → String
  | .value v => coilText v
  | .notConnected => s.noConnection

namespace Session

theorem isOpen_iff {s : Session} : s.isOpen = true ↔ ∃ h, s.held = some h :=
  Option.isSome_iff_exists

theorem not_isOpen_start (settings : Settings) (network : Network) :
    ¬(start settings network).isOpen = true :=
  Bool.false_ne_true

/-- After making a connection one is held, and after failing to make one it is as before. -/
theorem isOpen_connect (s : Session) :
    (s.connect.result = .ok () ∧ s.connect.session.isOpen = true) ∨
      ∃ f, s.connect.result = .error f ∧ s.connect.session.held = s.held := by
  rcases s.connect_cases with ⟨f, log, places, hc⟩ | ⟨place, service, slot, log, places, hc, -⟩
  · exact .inr ⟨f, by rw [hc], by rw [hc]⟩
  · exact .inl ⟨by rw [hc], by rw [hc]; rfl⟩

theorem held_of_refused {settings : Settings} {network : Network} {f : Failure}
    (h : (start settings network).connect.result = .error f) :
    (start settings network).connect.session.held = none := by
  obtain ⟨log, places, hc⟩ := connect_of_error h
  rw [hc]
  rfl

theorem isOpen_of_connected {s : Session} (h : s.connect.result = .ok ()) :
    s.connect.session.isOpen = true := by
  rcases s.isOpen_connect with ⟨-, hopen⟩ | ⟨g, herr, -⟩
  · exact hopen
  · rw [h] at herr
    cases herr

theorem settings_connect (s : Session) : s.connect.session.settings = s.settings :=
  settings_perform s .connect

end Session

section Probe

variable {settings : Settings} {network : Network} {sink : Sink}

/-- If no connection can be made, a probe writes that there is none, and this decides how it
ends. -/
theorem probe_of_refused {f : Failure}
    (h : (Session.start settings network).connect.result = .error f) :
    probe settings network sink =
      ⟨(sink.writeLine settings.noConnection).outcome .notConnected,
        (Session.start settings network).connect.log ++ [.noConnection settings.target f],
        (sink.writeLine settings.noConnection).sink,
        (Session.start settings network).connect.session⟩ := by
  have hprepare : (Session.start settings network).prepare sink =
      ⟨(sink.writeLine settings.noConnection).fault,
        (Session.start settings network).connect.log ++ [.noConnection settings.target f],
        (sink.writeLine settings.noConnection).sink,
        (Session.start settings network).connect.session⟩ := by
    rw [Session.prepare, if_neg (Session.not_isOpen_start settings network)]
    simp only [h]
    rfl
  have hopen : (Session.start settings network).connect.session.isOpen = false := by
    rw [Session.isOpen, Session.held_of_refused h]
    rfl
  rw [probe, hprepare, Written.outcome]
  cases (sink.writeLine settings.noConnection).fault with
  | some fault => rfl
  | none => rw [hopen]; rfl

/-- If a connection is made, a probe reads, and does with the coil what `Session.readOut` says. -/
theorem probe_of_connected (h : (Session.start settings network).connect.result = .ok ()) :
    probe settings network sink =
      { (Session.start settings network).connect.session.readOut sink with
        log := (Session.start settings network).connect.log ++
          ((Session.start settings network).connect.session.readOut sink).log } := by
  have hprepare : (Session.start settings network).prepare sink =
      ⟨none, (Session.start settings network).connect.log, sink,
        (Session.start settings network).connect.session⟩ := by
    rw [Session.prepare, if_neg (Session.not_isOpen_start settings network)]
    simp only [h]
  simp only [probe, hprepare, Session.isOpen_of_connected h, if_true]

/-- A read that fails fails the probe, and nothing is written. -/
theorem readOut_of_error {s : Session} {f : Failure}
    (h : (s.read s.settings.address).result = .error f) :
    s.readOut sink =
      ⟨.error f, (s.read s.settings.address).log, sink, (s.read s.settings.address).session⟩ := by
  simp only [Session.readOut, h]

/-- A coil that has been read is written, and this decides how the probe ends. -/
theorem readOut_of_ok {s : Session} {value : Bool}
    (h : (s.read s.settings.address).result = .ok value) :
    s.readOut sink =
      ⟨(sink.writeLine (coilText value)).outcome (.value value),
        (s.read s.settings.address).log ++ [.coil s.settings.address s.settings.target value],
        (sink.writeLine (coilText value)).sink, (s.read s.settings.address).session⟩ := by
  simp only [Session.readOut, h]

theorem session_readOut (s : Session) :
    (s.readOut sink).session = (s.read s.settings.address).session := by
  cases h : (s.read s.settings.address).result with
  | error f => rw [readOut_of_error h]
  | ok value => rw [readOut_of_ok h]

theorem log_readOut (sink sink' : Sink) (s : Session) :
    (s.readOut sink).log = (s.readOut sink').log := by
  cases h : (s.read s.settings.address).result with
  | error f => rw [readOut_of_error h, readOut_of_error h]
  | ok value => rw [readOut_of_ok h, readOut_of_ok h]

/-- If a connection is made and the read fails, the probe fails as it does, and writes nothing. -/
theorem probe_of_unread {f : Failure} (h : (Session.start settings network).connect.result = .ok ())
    (hread : ((Session.start settings network).connect.session.read settings.address).result =
      .error f) :
    probe settings network sink =
      ⟨.error f, (Session.start settings network).connect.log ++
          ((Session.start settings network).connect.session.read settings.address).log,
        sink, ((Session.start settings network).connect.session.read settings.address).session⟩ := by
  have hsettings : (Session.start settings network).connect.session.settings = settings :=
    Session.settings_connect _
  rw [probe_of_connected h, readOut_of_error (by rw [hsettings]; exact hread), hsettings]

/-- If a connection is made and the coil is read, the probe writes its value, and this decides how
the probe ends. -/
theorem probe_of_read {value : Bool}
    (h : (Session.start settings network).connect.result = .ok ())
    (hread : ((Session.start settings network).connect.session.read settings.address).result =
      .ok value) :
    probe settings network sink =
      ⟨(sink.writeLine (coilText value)).outcome (.value value),
        (Session.start settings network).connect.log ++
          (((Session.start settings network).connect.session.read settings.address).log ++
            [.coil settings.address settings.target value]),
        (sink.writeLine (coilText value)).sink,
        ((Session.start settings network).connect.session.read settings.address).session⟩ := by
  have hsettings : (Session.start settings network).connect.session.settings = settings :=
    Session.settings_connect _
  rw [probe_of_connected h, readOut_of_ok (by rw [hsettings]; exact hread), hsettings]

/-- Whatever its output, a probe writes the line of one outcome to it, or fails to read before it
writes. -/
theorem probe_tells (settings : Settings) (network : Network) :
    (∃ outcome : Outcome, ∀ sink,
      (probe settings network sink).result =
          (sink.writeLine (outcome.line settings)).outcome outcome ∧
        (probe settings network sink).sink = (sink.writeLine (outcome.line settings)).sink) ∨
    ∃ f, (Session.start settings network).connect.result = .ok () ∧
      ((Session.start settings network).connect.session.read settings.address).result = .error f ∧
      ∀ sink, (probe settings network sink).result = .error f ∧
        (probe settings network sink).sink = sink := by
  cases hc : (Session.start settings network).connect.result with
  | error f =>
    refine .inl ⟨.notConnected, fun sink => ?_⟩
    rw [probe_of_refused hc]
    exact ⟨rfl, rfl⟩
  | ok u =>
    cases hr : ((Session.start settings network).connect.session.read settings.address).result with
    | error f =>
      refine .inr ⟨f, rfl, rfl, fun sink => ?_⟩
      rw [probe_of_unread hc hr]
      exact ⟨rfl, rfl⟩
    | ok value =>
      refine .inl ⟨.value value, fun sink => ?_⟩
      rw [probe_of_read hc hr]
      exact ⟨rfl, rfl⟩

/-- What a probe comes to depends on what connecting and reading come to only. -/
theorem probe_congr {network' : Network}
    (hresult : (Session.start settings network).connect.result =
      (Session.start settings network').connect.result)
    (hlog : (Session.start settings network).connect.log =
      (Session.start settings network').connect.log)
    (hread : (Session.start settings network).connect.result = .ok () →
      ((Session.start settings network).connect.session.read settings.address).result =
          ((Session.start settings network').connect.session.read settings.address).result ∧
        ((Session.start settings network).connect.session.read settings.address).log =
          ((Session.start settings network').connect.session.read settings.address).log) :
    (probe settings network sink).result = (probe settings network' sink).result ∧
      (probe settings network sink).log = (probe settings network' sink).log ∧
      (probe settings network sink).sink = (probe settings network' sink).sink := by
  cases hc : (Session.start settings network).connect.result with
  | error f =>
    have hc' := hresult.symm.trans hc
    rw [probe_of_refused hc, probe_of_refused hc', hlog]
    exact ⟨rfl, rfl, rfl⟩
  | ok u =>
    have hc' := hresult.symm.trans hc
    obtain ⟨hvalue, hevents⟩ := hread hc
    cases hr : ((Session.start settings network).connect.session.read settings.address).result with
    | error f =>
      rw [probe_of_unread hc hr, probe_of_unread hc' (hvalue.symm.trans hr), hlog, hevents]
      exact ⟨rfl, rfl, rfl⟩
    | ok value =>
      rw [probe_of_read hc hr, probe_of_read hc' (hvalue.symm.trans hr), hlog, hevents]
      exact ⟨rfl, rfl, rfl⟩

/-- What a probe writes into the journal does not depend on its output. -/
theorem log_probe (settings : Settings) (network : Network) (sink sink' : Sink) :
    (probe settings network sink).log = (probe settings network sink').log := by
  cases h : (Session.start settings network).connect.result with
  | error f => rw [probe_of_refused h, probe_of_refused h]
  | ok u => rw [probe_of_connected h, probe_of_connected h, log_readOut sink sink']

/-- A probe leaves its session as a session that makes a connection and reads the coil. -/
theorem session_probe (settings : Settings) (network : Network) (sink : Sink) :
    (probe settings network sink).session =
      (Session.start settings network).after [.connect, .read settings.address] := by
  have hsettings : (Session.start settings network).connect.session.settings = settings :=
    Session.settings_connect _
  have hafter : (Session.start settings network).after [.connect, .read settings.address] =
      ((Session.start settings network).connect.session.read settings.address).session := rfl
  rw [hafter]
  cases h : (Session.start settings network).connect.result with
  | ok u => rw [probe_of_connected h, session_readOut, hsettings]
  | error f => rw [probe_of_refused h, Session.read_of_not_held _ (Session.held_of_refused h)]

end Probe

end CoilProbe
