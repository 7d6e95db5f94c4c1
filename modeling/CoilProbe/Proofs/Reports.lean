import CoilProbe.Proofs.Endings

/-!
# What a report tells

A report names the coil and the target, then the message of the failure, then the texts of the
causes below it. `report_ends_with_cause` says that a failure has one cause at most, that its
message ends in the text of this cause, and which four reports a probe can end with.
-/

namespace CoilProbe

/-! ## The text of a report -/

/-- Appending texts one after another with a colon before each. -/
theorem foldl_causes (text : String) (causes : List String) :
    causes.foldl (fun text cause => text ++ ": " ++ cause) text =
      text ++ String.join (causes.map (": " ++ ·)) := by
  induction causes generalizing text with
  | nil => rw [List.foldl_nil, List.map_nil, String.join_nil, String.append_empty]
  | cons cause causes ih =>
    rw [List.foldl_cons, ih, List.map_cons, String.join_cons, String.append_assoc,
      String.append_assoc, String.append_assoc]

namespace Failure

theorem report_eq (address : UInt16) (target : String) (f : Failure) :
    f.report address target = "Failed to read coil " ++ toString address.toNat ++ " from "
      ++ target ++ ": " ++ f.message ++ String.join (f.chain.map (": " ++ ·)) := by
  rw [report, foldl_causes]

/-- The report where only a host and a timeout have been asked for. -/
theorem report_of_usual {s : Settings} {host : String} {timeout : UInt64}
    (h : s = { host, port := 502, unit := 1, address := 103, timeout }) (f : Failure) :
    f.report s.address s.target = "Failed to read coil 103 from " ++ s.host ++ ":502: "
      ++ f.message ++ String.join (f.chain.map (": " ++ ·)) := by
  have hstart : "Failed to read coil 103 from " =
      "Failed to read coil " ++ toString (103 : UInt16).toNat ++ " from " := by decide
  have hport : ":502: " = ":" ++ toString (502 : UInt16).toNat ++ ": " := by decide
  subst h
  rw [report_eq, Settings.target, hstart, hport]
  simp only [String.append_assoc]

/-- A failure with one cause below it, in whose text its message ends after some other words. -/
def EndsWith (cause : String) (f : Failure) : Prop :=
  f.chain = [cause] ∧ ∃ words, f.message = words ++ ": " ++ cause

theorem endsWith_lookup (host : String) (fault : IoFault) :
    (lookup host fault).EndsWith fault.message :=
  ⟨chain_lookup host fault, "failed to resolve " ++ host, rfl⟩

theorem endsWith_connect (address : SocketAddress) (fault : IoFault) :
    (connect address fault).EndsWith fault.message :=
  ⟨chain_connect address fault, "failed to connect to " ++ address.text, rfl⟩

theorem endsWith_transport (fault : TransportFault) :
    (transport fault).EndsWith fault.message := by
  have hwords : "transport: " = "transport" ++ ": " := by decide
  refine ⟨chain_transport fault, "transport", ?_⟩
  show "transport: " ++ fault.message = _
  rw [hwords]

/-- The report of a failure with a cause has the cause's text at its end, and once more in the
message before it. -/
theorem EndsWith.report_eq {f : Failure} {cause : String} (h : f.EndsWith cause)
    (address : UInt16) (target : String) :
    ∃ start, f.report address target = start ++ ": " ++ cause ++ ": " ++ cause := by
  obtain ⟨hchain, words, hmessage⟩ := h
  refine ⟨"Failed to read coil " ++ toString address.toNat ++ " from " ++ target ++ ": " ++ words,
    ?_⟩
  rw [Failure.report_eq, hchain, hmessage, List.map_singleton, String.join_cons, String.join_nil]
  simp only [String.append_assoc, String.append_empty]

end Failure

/-! ## The reports of a probe -/

/-- What a failed read says under some settings, and what the report of it has after the target. -/
inductive Settings.Complains (s : Settings) : Failure → String → Prop
  | timedOut :
      Complains s (.timedOut s.timeout) ("timed out after " ++ toString s.timeout.toNat ++ " ms")
  | transport (fault : TransportFault) :
      Complains s (.transport fault) ("transport: " ++ fault.message ++ ": " ++ fault.message)
  | exception (code : ExceptionCode) :
      Complains s (.exception code) ("exception: " ++ code.message)
  | emptyResponse : Complains s .emptyResponse "empty response"

theorem Settings.Complains.report_eq {s : Settings} {f : Failure} {text : String}
    (h : s.Complains f text) : f.report s.address s.target =
      "Failed to read coil " ++ toString s.address.toNat ++ " from " ++ s.target ++ ": "
        ++ text := by
  have htail : f.message ++ String.join (f.chain.map (": " ++ ·)) = text := by
    cases h with
    | timedOut | exception | emptyResponse =>
      rw [Failure.chain_eq, Failure.source, Option.map_none, Option.toList_none, List.map_nil,
        String.join_nil, String.append_empty]
      rfl
    | transport fault =>
      rw [Failure.chain_transport, List.map_singleton, String.join_cons, String.join_nil,
        String.append_empty, ← String.append_assoc]
      rfl
  rw [Failure.report_eq, String.append_assoc, htail]

/-- An answer without a coil is one of four complaints. -/
theorem Session.complains_of_coilOf {s : Settings} {answer : Answer} {f : Failure}
    (h : coilOf s.timeout answer = .error f) : ∃ text, s.Complains f text := by
  unfold coilOf at h
  split at h
  · cases h
  · cases h
    exact ⟨_, .emptyResponse⟩
  · cases h
    exact ⟨_, .exception _⟩
  · cases h
    exact ⟨_, .transport _⟩
  · cases h
    exact ⟨_, .timedOut⟩

/-- A probe whose output takes its lines fails as a read over its connection does. -/
theorem complains_of_probe {settings : Settings} {network : Network} {sink : Sink}
    (hsink : sink.Takes settings.lines) {f : Failure}
    (h : (probe settings network sink).result = .error f) : ∃ text, settings.Complains f text := by
  rcases probe_tells settings network with ⟨outcome, htold⟩ | ⟨g, hconnected, hread, hfails⟩
  · rw [(htold sink).1, Written.outcome, hsink _ (outcome.line_mem_lines settings)] at h
    cases h
  · rw [(hfails sink).1] at h
    cases h
    obtain ⟨c, hheld⟩ := Session.isOpen_iff.1 (Session.isOpen_of_connected hconnected)
    have hsettings : (Session.start settings network).connect.session.settings = settings :=
      Session.settings_connect _
    rw [Session.read_of_held _ hheld, hsettings] at hread
    exact Session.complains_of_coilOf hread

/-! ## Main statement -/

/-- A report names the coil and the target and then has the message of the failure and the texts of
its causes. A lookup, a connection attempt and an exchange that fail have one cause, and the message
ends in its text, so that this text stands at the end of the report. No other failure has a cause,
that of an output included. A probe whose output takes its lines fails with one of four reports
only, for the coil and the target of its settings. -/
theorem report_ends_with_cause :
    (∀ (f : Failure) (address : UInt16) (target : String),
      f.report address target = "Failed to read coil " ++ toString address.toNat ++ " from "
        ++ target ++ ": " ++ f.message ++ String.join (f.chain.map (": " ++ ·)) ∧
      match f with
      | .lookup _ fault | .connect _ fault =>
        f.EndsWith fault.message ∧
          ∃ start, f.report address target = start ++ ": " ++ fault.message
      | .transport fault =>
        f.EndsWith fault.message ∧
          ∃ start, f.report address target = start ++ ": " ++ fault.message
      | .noAddress _ | .timedOut _ | .exception _ | .emptyResponse | .notConnected | .output _ =>
        f.chain = []) ∧
    ∀ (settings : Settings) (network : Network) (sink : Sink), sink.Takes settings.lines →
      ∀ f, (probe settings network sink).result = .error f →
        ∃ text, settings.Complains f text ∧
          (probe settings network sink).report? settings =
            some ("Failed to read coil " ++ toString settings.address.toNat ++ " from "
              ++ settings.target ++ ": " ++ text) := by
  constructor
  · intro f address target
    have hends {cause : String} (h : f.EndsWith cause) : f.EndsWith cause ∧
        ∃ start, f.report address target = start ++ ": " ++ cause := by
      obtain ⟨start, hstart⟩ := h.report_eq address target
      exact ⟨h, start ++ ": " ++ cause, hstart⟩
    refine ⟨f.report_eq address target, ?_⟩
    cases f with
    | lookup host fault => exact hends (Failure.endsWith_lookup host fault)
    | connect a fault => exact hends (Failure.endsWith_connect a fault)
    | transport fault => exact hends (Failure.endsWith_transport fault)
    | output fault => exact Failure.chain_output fault
    | noAddress | timedOut | exception | emptyResponse | notConnected => rfl
  · intro settings network sink hsink f hf
    obtain ⟨text, htext⟩ := complains_of_probe hsink hf
    refine ⟨text, htext, ?_⟩
    rw [Probe.report?, hf]
    exact congrArg some htext.report_eq

/-- A reply of another unit: the report has the text of the fault twice. -/
theorem report_ends_with_cause_mismatch :
    let settings : Settings := { host := "10.0.0.1", address := 7, timeout := 0 }
    let network : Network := { servers := [⟨.v4 ⟨10, 0, 0, 1⟩ 502,
      .accept { replies := [.send [[0, 0, 0, 0, 0, 4, 2, 1, 1, 1]] none] }⟩] }
    let fault : TransportFault := .headers ⟨0, 1⟩ ⟨0, 2⟩ (.answer (.readCoils
      [true, false, false, false, false, false, false, false]))
    Sink.Takes settings.lines {} ∧
      (probe settings network {}).result = .error (.transport fault) ∧
      (probe settings network {}).report? settings =
        some ("Failed to read coil 7 from 10.0.0.1:502: transport: " ++ fault.message ++ ": "
          ++ fault.message) := by
  intro settings network fault
  have hsink : Sink.Takes settings.lines {} :=
    Sink.takes_of_unlimited ⟨rfl, by decide⟩ settings.lines
  have hresult : (probe settings network {}).result = .error (.transport fault) := by
    decide +kernel
  obtain ⟨text, htext, hreport⟩ :=
    report_ends_with_cause.2 settings network {} hsink _ hresult
  cases htext
  have hstart : "Failed to read coil 7 from 10.0.0.1:502: transport: " =
      "Failed to read coil " ++ toString settings.address.toNat ++ " from " ++ settings.target
        ++ ": " ++ "transport: " := by decide
  refine ⟨hsink, hresult, hreport.trans ?_⟩
  rw [hstart]
  simp only [String.append_assoc]

end CoilProbe
