import CoilProbe.Program
import CoilProbe.Proofs.Directives
import CoilProbe.Proofs.Invocations
import CoilProbe.Proofs.Reports

/-!
# What the program does

The program is a probe of the settings that its command line asks for, with the journal filtered
onto the error output and the report of a failure after it. `program_runs_probe` says so of every
command line, and that the network is left alone where there is no probe.
-/

namespace CoilProbe

/-! ## The program -/

/-- The program ended as a probe with some settings did. -/
structure Exit.OfProbe (e : Exit) (time : String) (settings : Settings) (filter : Filter)
    (p : Probe) : Prop where
  /-- It printed what the probe wrote. -/
  output : e.output = p.sink.taken
  /-- The servers took what the probe sent. -/
  requests : e.requests = p.requests
  /-- Its status is that of the probe. -/
  status : e.status = exitStatus p.result
  /-- Its error output is the events that pass the filter and, if the probe failed, one line that
  says why. -/
  errors : e.errors = String.join ((p.log.filter filter.admits).map (Event.line time)) ++
    match p.result with
    | .ok _ => ""
    | .error f => "Failed to read coil 103 from " ++ settings.host ++ ":502: " ++ f.message
      ++ String.join (f.chain.map (": " ++ ·)) ++ "\n"

section Program

variable {time text : String} {network : Network} {arguments : List Argument}
  {directives : List Directive}

/-- Before any network is touched no request has been taken. -/
theorem requests_early (network : Network) (output : String) (complaint : Option String)
    (status : UInt8) :
    ∀ taken ∈ (Exit.early network output complaint status).requests, taken = [] :=
  Session.requests_eq_nil (Session.inv_start { host := "" } network) rfl

/-- Nothing is said about a filter that can be read. -/
theorem errors_carryOut (i : Invocation) (htext : FilterText.Spelled directives text.toList) :
    (i.carryOut time text network).errors =
      String.join (((probe i.settings network {}).log.filter
        (Filter.ofDirectives (baseLevel i.verbose) directives none).admits).map
          (Event.line time)) ++
      (((probe i.settings network {}).report? i.settings).map (· ++ "\n")).getD "" := by
  have hparse := FilterText.parse_of_spelled htext
  simp only [Invocation.carryOut, Exit.errors, hparse, FilterText.filter, List.map_nil,
    List.nil_append]

/-- An invocation is a probe with any output that takes its lines. -/
theorem ofProbe_carryOut {i : Invocation} {host : String} {timeout : UInt64}
    (htext : FilterText.Spelled directives text.toList)
    (hsettings : i.settings = { host, port := 502, unit := 1, address := 103, timeout })
    {sink : Sink} (hsink : sink.Takes i.settings.lines) (hempty : sink.taken = []) :
    (i.carryOut time text network).OfProbe time i.settings
      (Filter.ofDirectives (baseLevel i.verbose) directives none)
      (probe i.settings network sink) := by
  have hfree : Sink.Takes i.settings.lines {} :=
    Sink.takes_of_unlimited ⟨rfl, by decide⟩ i.settings.lines
  obtain ⟨hresult, written, htaken, htaken'⟩ := probe_sinks network hfree hsink
  have hlog := log_probe i.settings network {} sink
  have hsession : (probe i.settings network {}).session = (probe i.settings network sink).session :=
    (session_probe i.settings network {}).trans (session_probe i.settings network sink).symm
  refine ⟨?_, congrArg Session.requests hsession, congrArg exitStatus hresult, ?_⟩
  · calc (probe i.settings network {}).sink.taken = [] ++ written := htaken
      _ = (probe i.settings network sink).sink.taken := by rw [htaken', hempty]
  · rw [errors_carryOut i htext, hlog, Probe.report?, hresult]
    cases hp : (probe i.settings network sink).result with
    | ok outcome => rfl
    | error f =>
      simp only [Failure.report_of_usual hsettings]
      rfl

end Program

/-- The program is a probe. If its command line is accepted, with a host and a timeout and all else
as usual, it ends as a probe with these settings does over the same network, with any output that
takes the lines of the probe, and with the filter that the environment describes. If its command
line is wrong, its status is 2 and it prints nothing, and if the help or the version is asked for,
its status is 0 and it complains about nothing; no request is taken then. A command line that only
has settings means the same to it. -/
theorem program_runs_probe (time text : String) (network : Network) (arguments : List Argument)
    (directives : List Directive) (htext : FilterText.Spelled directives text.toList) :
    let exit := program time text network arguments
    (match Invocation.parse .program arguments with
      | .ok i =>
        (∃ host timeout,
          i.settings = { host, port := 502, unit := 1, address := 103, timeout }) ∧
        ∀ sink : Sink, sink.Takes i.settings.lines → sink.taken = [] →
          exit.OfProbe time i.settings
            (Filter.ofDirectives (baseLevel i.verbose) directives none)
            (probe i.settings network sink)
      | .error (.misuse _) =>
        exit.status = 2 ∧ exit.output = [] ∧ ∀ taken ∈ exit.requests, taken = []
      | .error .help | .error .version =>
        exit.status = 0 ∧ exit.errors = "" ∧ ∀ taken ∈ exit.requests, taken = []) ∧
    ∀ i, Invocation.parse .settings arguments = .ok i →
      Invocation.parse .program arguments = .ok ⟨i.settings, false⟩ := by
  intro exit
  refine ⟨?_, fun i hi => ?_⟩
  · cases hparse : Invocation.parse .program arguments with
    | ok i =>
      have hexit : exit = i.carryOut time text network := by
        simp only [exit, program, hparse]
      obtain ⟨host, timeout, hsettings⟩ := Invocation.settings_of_parse hparse
      refine ⟨⟨host, timeout, hsettings⟩, fun sink hsink hempty => ?_⟩
      rw [hexit]
      exact ofProbe_carryOut htext hsettings hsink hempty
    | error stop =>
      cases stop with
      | misuse m =>
        have hexit : exit = .early network "" (some (m.message .pauses)) 2 := by
          simp only [exit, program, hparse]
        rw [hexit]
        exact ⟨rfl, rfl, requests_early network _ _ _⟩
      | help =>
        have hexit : exit = .early network Dialect.program.help none 0 := by
          simp only [exit, program, hparse]
        rw [hexit]
        exact ⟨rfl, rfl, requests_early network _ _ _⟩
      | version =>
        have hexit : exit = .early network versionText none 0 := by
          simp only [exit, program, hparse]
        rw [hexit]
        exact ⟨rfl, rfl, requests_early network _ _ _⟩
  · have hprogram := Invocation.parse_of_subset
      (show Dialect.settings.flags ⊆ Dialect.program.flags by decide) hi
    have hverbose := Invocation.verbose_of_parse (by decide) hi
    rw [hprogram, ← hverbose]

/-- With a server that sends its coil and a filter that lets through what the reader notes, the
program prints the coil, and the events of the client are not shown. With a server that says nothing
and a filter for both, it prints nothing, and to its error output all events and why it failed. -/
theorem program_runs_probe_filtered :
    let network : Network :=
      { servers := [⟨.v4 ⟨10, 0, 0, 1⟩ 502, .accept {}⟩, ⟨.v4 ⟨10, 0, 0, 2⟩ 502,
          .accept { replies := [.send [[0, 0, 0, 0, 0, 4, 1, 1, 1, 1]] none] }⟩] }
    let few := "warn,modbus_coil_reader::reader=Debug"
    let all := "INFO,modbus_coil_reader=Debug"
    let read := program "-" few network (["10.0.0.2"].map Argument.ofString)
    let failed := program "-" all network (["-t", "5", "10.0.0.1"].map Argument.ofString)
    (read.output = Utf8.encode "True\n" ∧ read.status = 0 ∧
      read.requests = [[], [[0, 0, 0, 0, 0, 6, 1, 1, 0, 103, 0, 1]]] ∧
      read.errors = "[- DEBUG modbus_coil_reader::reader] Coil 103 of 10.0.0.2:502 is true\n") ∧
    failed.output = [] ∧ failed.status = 1 ∧
      failed.requests = [[[0, 0, 0, 0, 0, 6, 1, 1, 0, 103, 0, 1]], []] ∧
      failed.errors =
        "[- DEBUG modbus_coil_reader::tcp::client] Connecting to 10.0.0.1:502 with unit id 1\n"
        ++ "[- DEBUG modbus_coil_reader::tcp::client] Modbus TCP connected to 10.0.0.1:502\n"
        ++ "[- DEBUG modbus_coil_reader::tcp::client] Read coil at 103 (0x0067)\n"
        ++ "Failed to read coil 103 from 10.0.0.1:502: timed out after 5 ms\n" := by
  intro network few all read failed
  have hsolid : Solid "modbus_coil_reader".toList :=
    ⟨by decide, by decide, by decide, by rintro c ⟨⟩; decide, by rintro c ⟨⟩; decide⟩
  have hsolid' : Solid "modbus_coil_reader::reader".toList :=
    ⟨by decide, by decide, by decide, by rintro c ⟨⟩; decide, by rintro c ⟨⟩; decide⟩
  have hinfo : Threshold.Spelled (some .info) "INFO".toList := rfl
  have hwarn : Threshold.Spelled (some .warn) "warn".toList := rfl
  have hdebug : Threshold.Spelled (some .debug) "Debug".toList := rfl
  have hfew : FilterText.Spelled
      [⟨none, some .warn⟩, ⟨some "modbus_coil_reader::reader".toList, some .debug⟩] few.toList :=
    ⟨_, .cons (.level hwarn) (.cons (.both hsolid' (by decide) hdebug) .nil), by decide⟩
  have hall : FilterText.Spelled
      [⟨none, some .info⟩, ⟨some "modbus_coil_reader".toList, some .debug⟩] all.toList :=
    ⟨_, .cons (.level hinfo) (.cons (.both hsolid (by decide) hdebug) .nil), by decide⟩
  have hsink (settings : Settings) : Sink.Takes settings.lines {} :=
    Sink.takes_of_unlimited ⟨rfl, by decide⟩ settings.lines
  have hparse : Invocation.parse .program (["10.0.0.2"].map Argument.ofString) =
      .ok ⟨{ host := "10.0.0.2" }, false⟩ := by decide
  have hparse' : Invocation.parse .program (["-t", "5", "10.0.0.1"].map Argument.ofString) =
      .ok ⟨{ host := "10.0.0.1", timeout := 5 }, false⟩ := by decide
  obtain ⟨hread, -⟩ := program_runs_probe "-" few network _ _ hfew
  rw [hparse] at hread
  obtain ⟨houtput, hrequests, hstatus, herrors⟩ := hread.2 {} (hsink _) rfl
  obtain ⟨hfailed, -⟩ := program_runs_probe "-" all network _ _ hall
  rw [hparse'] at hfailed
  obtain ⟨houtput', hrequests', hstatus', herrors'⟩ := hfailed.2 {} (hsink _) rfl
  refine ⟨⟨houtput.trans ?_, hstatus.trans ?_, hrequests.trans ?_, herrors.trans ?_⟩,
    houtput'.trans ?_, hstatus'.trans ?_, hrequests'.trans ?_, herrors'.trans ?_⟩
  all_goals decide +kernel

end CoilProbe
