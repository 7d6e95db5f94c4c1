import CoilProbe.Proofs.Programs

/-!
# What is shown by default

The part that makes connections and reads coils notes what is of use for debugging only, and a probe
adds one event that matters more, if no connection can be made. `probe_is_quiet` says so, and that
the program, unless it is asked for more, shows none of it: its error output is the report of a
failure or nothing.
-/

namespace CoilProbe

theorem Event.level_of_client {e : Event} (h : e.component = .client) : e.level = .debug := by
  cases e with
  | noConnection | coil => cases h
  | connecting | connected | connectFailed | connectTimedOut | reading => rfl

theorem Attempt.client_of_events {s : Settings} {a : SocketAddress} {t : Attempt} {e : Event}
    (h : e ∈ t.events s a) : e.component = .client := by
  cases t with
  | accepted | failed | hung =>
    rcases List.mem_pair.1 h with rfl | rfl <;> rfl

theorem Roster.client_of_trialLog {s : Settings} {as : List SocketAddress} {n : Nat} {r : Roster}
    {e : Event} (h : e ∈ r.trialLog s as n) : e.component = .client := by
  obtain ⟨events, hevents, he⟩ := List.mem_flatten.1 h
  obtain ⟨i, hi, rfl⟩ := List.mem_mapIdx.1 hevents
  exact Attempt.client_of_events he

namespace Session

variable {s : Session} {e : Event}

theorem client_of_connect (h : e ∈ s.connect.log) : e.component = .client := by
  cases hres : s.names.resolve s.settings.host s.settings.timeout.toNat with
  | late =>
    rw [connect_of_late hres] at h
    cases h
  | failed fault =>
    rw [connect_of_failed hres] at h
    cases h
  | found ips =>
    rcases Roster.trial_cases (targets s.settings ips) s.roster with
      ⟨i, place, service, hi, hacc, hbefore⟩ | hall
    · rw [connect_of_accepted hres rfl hi hacc hbefore] at h
      exact Roster.client_of_trialLog h
    · rw [connect_of_refused hres rfl hall] at h
      exact Roster.client_of_trialLog h

theorem client_of_read {a : UInt16} (h : e ∈ (s.read a).log) : e.component = .client := by
  cases hheld : s.held with
  | none =>
    rw [read_of_not_held a hheld] at h
    cases h
  | some c =>
    rw [read_of_held a hheld] at h
    cases List.mem_singleton.1 h
    rfl

end Session

/-! ## Probes -/

/-- The events of some that matter more than for debugging. -/
def infos (log : List Event) : List Event := log.filter fun e => e.level = .info

theorem infos_append (log later : List Event) : infos (log ++ later) = infos log ++ infos later :=
  List.filter_append log later

theorem infos_of_client {log : List Event} (h : ∀ e ∈ log, e.component = .client) :
    infos log = [] := by
  refine List.filter_eq_nil_iff.2 fun e he hinfo => ?_
  rw [Event.level_of_client (h e he)] at hinfo
  exact absurd (of_decide_eq_true hinfo) (by decide)

/-- A probe without a connection says so in an event that matters more, and there is no other. -/
theorem infos_probe (settings : Settings) (network : Network) (sink : Sink) :
    infos (probe settings network sink).log =
      match (Session.start settings network).connect.result with
      | .error f => [.noConnection settings.target f]
      | .ok _ => [] := by
  have hconnect : infos (Session.start settings network).connect.log = [] :=
    infos_of_client fun e he => Session.client_of_connect he
  have hread : infos
      ((Session.start settings network).connect.session.read settings.address).log = [] :=
    infos_of_client fun e he => Session.client_of_read he
  cases hc : (Session.start settings network).connect.result with
  | error f =>
    rw [probe_of_refused hc, infos_append, hconnect]
    rfl
  | ok u =>
    cases hr : ((Session.start settings network).connect.session.read settings.address).result with
    | error f =>
      rw [probe_of_unread hc hr, infos_append, hconnect, hread]
      rfl
    | ok value =>
      rw [probe_of_read hc hr, infos_append, infos_append, hconnect, hread]
      rfl

/-! ## The program -/

/-- By default no event of a probe is let through. -/
theorem Filter.not_admits_of_default (e : Event) :
    (ofDirectives (baseLevel false) [] none).admits e = false := by
  cases e <;> rfl

theorem FilterText.spelled_nil : FilterText.Spelled [] "".toList := ⟨[], .nil, rfl⟩

/-- By default the error output is the report of a failure or nothing. -/
theorem errors_of_default {time : String} {network : Network} {i : Invocation}
    (hquiet : i.verbose = false) :
    (i.carryOut time "" network).errors =
      match (probe i.settings network {}).result with
      | .ok _ => ""
      | .error f => f.report i.settings.address i.settings.target ++ "\n" := by
  have hnone : (probe i.settings network {}).log.filter
      (Filter.ofDirectives (baseLevel i.verbose) [] none).admits = [] := by
    rw [hquiet]
    exact List.filter_eq_nil_iff.2 fun e _ => Bool.eq_false_iff.1 (Filter.not_admits_of_default e)
  rw [errors_carryOut i FilterText.spelled_nil, hnone, Probe.report?]
  cases (probe i.settings network {}).result with
  | ok outcome => rfl
  | error f => exact String.empty_append

/-- The journal of a probe is for debugging, but for one event if no connection can be made, which
is for information; all of it is noted by the two components. So the program, as long as neither its
command line nor the environment asks for more, prints nothing to its error output if its status is
0, as it is whenever no connection can be made, and nothing but the report of the failure and the
end of the line if its status is 1. -/
theorem probe_is_quiet (settings : Settings) (network : Network) (sink : Sink) :
    let p := probe settings network sink
    (∀ e ∈ p.log, (e.level = .debug ∨ e.level = .info) ∧
      (e.component.name = "modbus_coil_reader::reader" ∨
        e.component.name = "modbus_coil_reader::tcp::client")) ∧
    (infos p.log).length ≤ 1 ∧
    (infos p.log ≠ [] ↔ ∃ f, (Session.start settings network).connect.result = .error f) ∧
    ∀ time arguments i, Invocation.parse .program arguments = .ok i → i.verbose = false →
      let exit := program time "" network arguments
      (exit.status = 0 ∨ exit.status = 1) ∧
      (exit.status = 0 → exit.errors = "") ∧
      (exit.status = 1 → ∃ f, (probe i.settings network {}).result = .error f ∧
        exit.errors = "Failed to read coil 103 from " ++ i.settings.host ++ ":502: " ++ f.message
          ++ String.join (f.chain.map (": " ++ ·)) ++ "\n") ∧
      ∀ f, (Session.start i.settings network).connect.result = .error f →
        exit.status = 0 ∧ exit.errors = "" := by
  intro p
  have hinfos : infos p.log = _ := infos_probe settings network sink
  refine ⟨fun e _ => ?_, ?_, ?_, fun time arguments i hi hquiet => ?_⟩
  · cases e with
    | noConnection => exact ⟨.inr rfl, .inl rfl⟩
    | coil => exact ⟨.inl rfl, .inl rfl⟩
    | connecting | connected | connectFailed | connectTimedOut | reading =>
      exact ⟨.inl rfl, .inr rfl⟩
  · rw [hinfos]
    split <;> simp
  · rw [hinfos]
    split
    · rename_i f hf
      exact ⟨fun _ => ⟨f, hf⟩, fun _ => List.cons_ne_nil _ _⟩
    · rename_i hok
      refine ⟨fun h => absurd rfl h, fun ⟨f, hf⟩ => ?_⟩
      rw [hf] at hok
      cases hok
  · intro exit
    have hexit : exit = i.carryOut time "" network := by simp only [exit, program, hi]
    have hstatus : exit.status = exitStatus (probe i.settings network {}).result := by
      rw [hexit]
      rfl
    have herrors : exit.errors = _ := (congrArg Exit.errors hexit).trans (errors_of_default hquiet)
    cases hresult : (probe i.settings network {}).result with
    | ok outcome =>
      rw [hresult] at hstatus herrors
      refine ⟨.inl hstatus, fun _ => herrors, fun hone => ?_, fun f hf => ⟨hstatus, herrors⟩⟩
      exact absurd (show (0 : UInt8) = 1 from hstatus.symm.trans hone) (by decide)
    | error f =>
      rw [hresult] at hstatus herrors
      obtain ⟨host, timeout, hsettings⟩ := Invocation.settings_of_parse hi
      have hreport := Failure.report_of_usual hsettings f
      refine ⟨.inr hstatus, fun hzero => ?_, fun _ => ⟨f, rfl, herrors.trans ?_⟩, fun g hg => ?_⟩
      · exact absurd (show (1 : UInt8) = 0 from hstatus.symm.trans hzero) (by decide)
      · exact congrArg (· ++ "\n") hreport
      · have htakes := Sink.takes_of_unlimited (k := {}) ⟨rfl, by decide⟩ i.settings.lines
        rw [(probe_refused_writes htakes hg).1] at hresult
        cases hresult

/-- With a host of two addresses, of which the first one refuses and the second one does not answer,
the program prints its line and nothing else. With a server that closes in the middle of a frame it
prints nothing but why it failed. -/
theorem probe_is_quiet_unreachable_or_cut_off :
    let network : Network :=
      { names := [("plc", { answer := .ok [.v4 ⟨10, 0, 0, 1⟩, .v4 ⟨10, 0, 0, 2⟩] })]
        servers := [⟨.v4 ⟨10, 0, 0, 2⟩ 502, .hang⟩, ⟨.v4 ⟨10, 0, 0, 3⟩ 502,
          .accept { replies := [.send [[0, 0, 0, 0, 0, 4, 1], [1, 1]] (some .close)] }⟩] }
    let exit := program "-" "" network (["plc"].map Argument.ofString)
    let exit' := program "-" "" network (["10.0.0.3"].map Argument.ofString)
    (infos (probe { host := "plc" } network {}).log).length ≤ 1 ∧
      exit.output = Utf8.encode "No connct to plc:502\n" ∧ exit.status = 0 ∧ exit.errors = "" ∧
      exit'.output = [] ∧ exit'.status = 1 ∧
      exit'.errors = "Failed to read coil 103 from 10.0.0.3:502: transport: "
        ++ "bytes remaining on stream: bytes remaining on stream\n" := by
  intro network exit exit'
  obtain ⟨-, hone, -, hprogram⟩ := probe_is_quiet { host := "plc" } network {}
  have hparse : Invocation.parse .program (["plc"].map Argument.ofString) =
      .ok ⟨{ host := "plc" }, false⟩ := by decide
  obtain ⟨-, -, -, hrefused⟩ := hprogram "-" _ _ hparse rfl
  have hconnect : (Session.start { host := "plc" } network).connect.result =
      .error (.timedOut 3000) := by decide
  obtain ⟨hstatus, herrors⟩ := hrefused _ hconnect
  have hparse' : Invocation.parse .program (["10.0.0.3"].map Argument.ofString) =
      .ok ⟨{ host := "10.0.0.3" }, false⟩ := by decide
  obtain ⟨-, -, hfailed, -⟩ := hprogram "-" _ _ hparse' rfl
  have hstatus' : exit'.status = 1 := by decide +kernel
  obtain ⟨f, hresult, herrors'⟩ := hfailed hstatus'
  have hf : (probe { host := "10.0.0.3" } network {}).result =
      .error (.transport .bytesRemaining) := by decide +kernel
  rw [hf] at hresult
  cases hresult
  refine ⟨hone, by decide +kernel, hstatus, herrors, by decide +kernel, hstatus', ?_⟩
  rw [herrors', Failure.chain_transport]
  decide +kernel

end CoilProbe
