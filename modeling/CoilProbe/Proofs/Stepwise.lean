import CoilProbe.Proofs.Endings

/-!
# A probe as two steps of a session

A probe goes by whether a connection is held and a session tells what each of its steps came to.
`probe_follows_session` says that the two agree: a probe ends as the steps of connecting and of
reading do, its servers take the same requests, and its journal is theirs with one event more where
a line is written.
-/

namespace CoilProbe

/-! ## The events of a probe -/

theorem record_noConnection (target : String) (f : Failure) :
    (Event.noConnection target f).record = "INFO modbus_coil_reader::reader: Open connection to "
      ++ target ++ " failed. [" ++ f.message ++ "]" := by
  have hstart : "INFO modbus_coil_reader::reader: Open connection to " =
      "INFO" ++ " " ++ "modbus_coil_reader::reader" ++ ": " ++ "Open connection to " := by decide
  show "INFO" ++ " " ++ "modbus_coil_reader::reader" ++ ": " ++
    ("Open connection to " ++ target ++ " failed. [" ++ f.message ++ "]") = _
  rw [hstart]
  simp only [String.append_assoc]

theorem record_coil (address : UInt16) (target : String) (value : Bool) :
    (Event.coil address target value).record = "DEBUG modbus_coil_reader::reader: Coil "
      ++ toString address.toNat ++ " of " ++ target ++ " is " ++ flagText value := by
  have hstart : "DEBUG modbus_coil_reader::reader: Coil " =
      "DEBUG" ++ " " ++ "modbus_coil_reader::reader" ++ ": " ++ "Coil " := by decide
  show "DEBUG" ++ " " ++ "modbus_coil_reader::reader" ++ ": " ++
    ("Coil " ++ toString address.toNat ++ " of " ++ target ++ " is " ++ flagText value) = _
  rw [hstart]
  simp only [String.append_assoc]

/-- A probe whose output takes its lines agrees with a session of the same settings and network that
makes a connection and then reads the coil of the settings. The servers take the same requests. If
no connection is made, the probe ends without one, and its journal is that of the attempt with one
event more, which says why. If the read fails, so does the probe, for the same reason and with the
journal of the two steps. If it yields a value, the probe ends with it, and the journal of the two
steps has one event more, which says so. -/
theorem probe_follows_session (settings : Settings) (network : Network) (sink : Sink)
    (hsink : sink.Takes settings.lines) :
    let s := Session.start settings network
    let steps := [Step.connect, .read settings.address]
    let p := probe settings network sink
    p.requests = (s.after steps).requests ∧
      ∃ opened read, s.reports steps = [opened, read] ∧
        match opened.result with
        | .error f =>
          p.result = .ok .notConnected ∧
          ∃ e, p.log = opened.log ++ [e] ∧
            e.record = "INFO modbus_coil_reader::reader: Open connection to " ++ settings.target
              ++ " failed. [" ++ f.message ++ "]"
        | .ok _ =>
          match read.result with
          | .error f => p.result = .error f ∧ p.log = opened.log ++ read.log
          | .ok value =>
            ∃ v, value = .coil v ∧ p.result = .ok (.value v) ∧
              ∃ e, p.log = opened.log ++ read.log ++ [e] ∧
                e.record = "DEBUG modbus_coil_reader::reader: Coil "
                  ++ toString settings.address.toNat ++ " of " ++ settings.target ++ " is "
                  ++ flagText v := by
  intro s steps p
  refine ⟨congrArg Session.requests (session_probe settings network sink), s.report .connect,
    s.connect.session.report (.read settings.address), rfl, ?_⟩
  have hp : p = probe settings network sink := rfl
  simp only [Session.report, Session.perform]
  cases hc : s.connect.result with
  | error f =>
    obtain ⟨hresult, -⟩ := probe_refused_writes hsink hc
    exact ⟨hresult, _, by rw [hp, probe_of_refused hc], record_noConnection settings.target f⟩
  | ok u =>
    cases hr : (s.connect.session.read settings.address).result with
    | error f =>
      obtain ⟨-, hresult, -⟩ := probe_unread_writes sink hc hr
      exact ⟨hresult, by rw [hp, probe_of_unread hc hr]⟩
    | ok v =>
      obtain ⟨hresult, -⟩ := probe_read_writes hsink hc hr
      refine ⟨v, rfl, hresult, _, ?_, record_coil settings.address settings.target v⟩
      rw [hp, probe_of_read hc hr, List.append_assoc]

/-- A probe whose first attempt is refused and whose second one is answered in two chunks, with an
output that takes two bytes at once. -/
theorem probe_follows_session_value :
    let settings : Settings := { host := "plc", timeout := 0 }
    let network : Network :=
      { names := [("plc", { answer := .ok [.v4 ⟨10, 0, 0, 1⟩, .v4 ⟨10, 0, 0, 2⟩] })]
        servers := [⟨.v4 ⟨10, 0, 0, 2⟩ 502,
          .accept { replies := [.send [[0, 0, 0, 0, 0, 4], [1, 1, 1, 1]] none] }⟩] }
    let sink : Sink := { chunk := some 2 }
    let s := Session.start settings network
    let p := probe settings network sink
    sink.Takes settings.lines ∧ p.result = .ok (.value true) ∧
      p.requests = (s.after [.connect, .read 103]).requests ∧
      p.log.map Event.record =
        ((s.reports [.connect, .read 103]).flatMap StepReport.log).map Event.record ++
          ["DEBUG modbus_coil_reader::reader: Coil 103 of plc:502 is true"] := by
  intro settings network sink s p
  have hsink : sink.Takes settings.lines := Sink.takes_of_unlimited ⟨rfl, by decide⟩ _
  obtain ⟨hrequests, opened, read, hreports, hends⟩ :=
    probe_follows_session settings network sink hsink
  have hresults : (s.reports [.connect, .read 103]).map StepReport.result =
      [.ok .done, .ok (.coil true)] := by
    decide +kernel
  rw [hreports] at hresults
  obtain ⟨hopened, hread⟩ : opened.result = .ok .done ∧ read.result = .ok (.coil true) := by
    simpa using hresults
  rw [hopened, hread] at hends
  obtain ⟨v, hv, hresult, e, hlog, hrecord⟩ := hends
  cases hv
  have hline : e.record = "DEBUG modbus_coil_reader::reader: Coil 103 of plc:502 is true" :=
    hrecord.trans (by decide)
  refine ⟨hsink, hresult, hrequests, ?_⟩
  rw [show (probe settings network sink).log = _ from hlog, hreports, List.map_append]
  simp [hline]

end CoilProbe
