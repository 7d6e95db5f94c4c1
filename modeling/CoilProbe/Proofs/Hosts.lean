import CoilProbe.Proofs.Literals
import CoilProbe.Proofs.Lockstep
import CoilProbe.Proofs.Openness

/-!
# Hosts that are addresses

A host that is an address is not looked up, and stands for that address in whatever way it is
written. So the host names that are known do not matter to such a session, and neither does how its
host is written, except where it shows its settings (`literal_host_stands_for_its_address`).
-/

namespace CoilProbe

/-! ## Writing a host in another way -/

def Settings.rehosted (host : String) (s : Settings) : Settings := { s with host := host }

def StepValue.rehosted (host : String) : StepValue → StepValue
  | .settings s => .settings (s.rehosted host)
  | v => v

def StepReport.rehosted (host : String) (r : StepReport) : StepReport :=
  { r with result := r.result.map (StepValue.rehosted host) }

def Session.rehosted (names : NameTable) (host : String) (s : Session) : Session :=
  { s with settings := s.settings.rehosted host, names := names }

/-- An address as it stands before a port. -/
def IPAddress.bracketed : IPAddress → List Char
  | .v4 ip => ip.text
  | .v6 ip => '[' :: (ip.text ++ [']'])

/-- The address of a service is its host's text, in brackets for IPv6, and its port. -/
theorem IPAddress.text_withPort (a : IPAddress) (port : UInt16) :
    (a.withPort port).text = String.ofList (a.bracketed ++ ':' :: decimal port.toNat) := by
  cases a with
  | v4 ip => rfl
  | v6 ip => simp [withPort, SocketAddress.text, bracketed, zoneText]

variable {names : NameTable} {host : String} {a : IPAddress}

theorem NameTable.resolve_of_literal (h : IPAddress.parse? host = some a) (names : NameTable)
    (limit : Nat) : names.resolve host limit = .found [a] := by
  rw [resolve, h]

/-! ## Attempts -/

/-- Why there was no connection before does not matter after an attempt, and neither does how the
host is written. -/
theorem Roster.search_rehosted (s : Settings) (f f' : Failure) (b : SocketAddress) (r : Roster) :
    r.search (s.rehosted host) f' [b] = r.search s f [b] := by
  rw [search_cons, search_cons]
  cases (r.attempt b).1 <;> rfl

/-- A search at one address makes one attempt there. -/
theorem Roster.search_singleton (s : Settings) (f : Failure) (b : SocketAddress) (r : Roster) :
    attempted (r.search s f [b]).log = [b] ∧
      ((∃ found, (r.search s f [b]).result = .ok found) ∨
        (∃ fault, (r.search s f [b]).result = .error (.connect b fault)) ∨
        (r.search s f [b]).result = .error (.timedOut s.timeout)) := by
  rw [search_cons]
  cases (r.attempt b).1 with
  | accepted place service => exact ⟨rfl, .inl ⟨_, rfl⟩⟩
  | failed fault => exact ⟨rfl, .inr (.inl ⟨fault, rfl⟩)⟩
  | hung => exact ⟨rfl, .inr (.inr rfl)⟩

/-! ## Sessions -/

namespace Session

theorem connect_of_literal {s : Session} (h : IPAddress.parse? s.settings.host = some a) :
    s.connect = s.searched (s.roster.search s.settings (.noAddress s.settings.host)
      [a.withPort s.settings.port]) :=
  connect_of_found (NameTable.resolve_of_literal h _ _)

/-- Connecting to a literal host makes one attempt, which decides how it ends. -/
theorem report_connect_of_literal {s : Session} (h : IPAddress.parse? s.settings.host = some a) :
    attempted (s.report .connect).log = [a.withPort s.settings.port] ∧
      ((s.report .connect).result = .ok .done ∨
        (∃ fault, (s.report .connect).result =
          .error (.connect (a.withPort s.settings.port) fault)) ∨
        (s.report .connect).result = .error (.timedOut s.settings.timeout)) := by
  obtain ⟨hlog, hresult⟩ := s.roster.search_singleton s.settings (.noAddress s.settings.host)
    (a.withPort s.settings.port)
  simp only [report, perform, connect_of_literal h]
  unfold searched
  rcases hresult with ⟨found, hok⟩ | ⟨fault, hfault⟩ | hlate
  · simp only [hok]
    exact ⟨hlog, .inl rfl⟩
  · simp only [hfault]
    exact ⟨hlog, .inr (.inl ⟨fault, rfl⟩)⟩
  · simp only [hlate]
    exact ⟨hlog, .inr (.inr rfl)⟩

theorem connect_rehosted {s : Session} (h : IPAddress.parse? s.settings.host = some a)
    (hhost : IPAddress.parse? host = some a) :
    (s.rehosted names host).connect =
      ⟨s.connect.result, s.connect.log, s.connect.session.rehosted names host⟩ := by
  have hhost' : IPAddress.parse? (s.rehosted names host).settings.host = some a := hhost
  have hsearch : (s.rehosted names host).roster.search (s.rehosted names host).settings
      (.noAddress (s.rehosted names host).settings.host)
      [a.withPort (s.rehosted names host).settings.port] =
        s.roster.search s.settings (.noAddress s.settings.host) [a.withPort s.settings.port] :=
    s.roster.search_rehosted s.settings _ _ _
  rw [connect_of_literal h, connect_of_literal hhost', hsearch]
  unfold searched
  split <;> rfl

theorem read_rehosted (s : Session) (b : UInt16) :
    (s.rehosted names host).read b =
      ⟨(s.read b).result, (s.read b).log, (s.read b).session.rehosted names host⟩ := by
  cases hheld : s.held with
  | none =>
    have hheld' : (s.rehosted names host).held = none := hheld
    rw [read_of_not_held b hheld, read_of_not_held b hheld']
  | some c =>
    have hheld' : (s.rehosted names host).held = some c := hheld
    rw [read_of_held b hheld, read_of_held b hheld']
    rfl

theorem step_rehosted {s : Session} (h : IPAddress.parse? s.settings.host = some a)
    (hhost : IPAddress.parse? host = some a) (step : Step) :
    (s.rehosted names host).report step = (s.report step).rehosted host ∧
      ((s.rehosted names host).perform step).session =
        (s.perform step).session.rehosted names host := by
  cases step with
  | connect =>
    simp only [report, perform, connect_rehosted h hhost, StepReport.rehosted]
    cases s.connect.result <;> exact ⟨rfl, trivial⟩
  | isOpen | settings => exact ⟨rfl, rfl⟩
  | read b =>
    simp only [report, perform, read_rehosted, StepReport.rehosted]
    cases (s.read b).result <;> exact ⟨rfl, trivial⟩

/-- A session whose literal host is written in another way goes on in the same way, whatever host
names are known. -/
theorem run_rehosted (names : NameTable) {s : Session}
    (h : IPAddress.parse? s.settings.host = some a) (hhost : IPAddress.parse? host = some a)
    (steps : List Step) :
    (s.rehosted names host).reports steps = (s.reports steps).map (StepReport.rehosted host) ∧
      (s.rehosted names host).after steps = (s.after steps).rehosted names host := by
  have hcovered (s : Session) (step : Step) (h : IPAddress.parse? s.settings.host = some a) :
      IPAddress.parse? (s.perform step).session.settings.host = some a := by
    rw [settings_perform]
    exact h
  have hrun : (s.rehosted names host).reports (steps.map id) =
        (s.reports steps).map (StepReport.rehosted host) ∧
      (s.rehosted names host).after (steps.map id) = (s.after steps).rehosted names host :=
    lockstep hcovered (fun s step h => step_rehosted h hhost step) h steps
  rwa [List.map_id] at hrun

/-- The host names that are known do not matter to a session with a literal host. -/
theorem run_renamed (names : NameTable) {s : Session}
    (h : IPAddress.parse? s.settings.host = some a) (steps : List Step) :
    (s.rehosted names s.settings.host).reports steps = s.reports steps := by
  -- With its own host a session is what it was, so its reports are their own change.
  have hown : s.rehosted s.names s.settings.host = s := rfl
  obtain ⟨hreports, -⟩ := run_rehosted s.names h h steps
  obtain ⟨hreports', -⟩ := run_rehosted names h h steps
  rw [hown] at hreports
  exact hreports'.trans hreports.symm

end Session

/-! ## Main statement -/

/-- A literal host stands for its address. The canonical text of an address, which is told in the
journal and in failures, is a text of that address. A session with a literal host is the same for
all host names that may be known. Each time it connects it makes one attempt, at its address and
port, which succeeds, fails, or takes too long: there is no lookup that fails or finds nothing.
Sessions whose hosts are texts of the same address report the same of each step, except for the host
where they show their settings, and have the same requests taken. -/
theorem literal_host_stands_for_its_address :
    (∀ a : IPAddress, IPAddress.parse? (String.ofList a.text) = some a ∧ ∀ port : UInt16,
      (a.withPort port).text = String.ofList (a.bracketed ++ ':' :: decimal port.toNat)) ∧
    ∀ (settings : Settings) (network : Network) (steps : List Step) (a : IPAddress),
      IPAddress.parse? settings.host = some a →
      let s := Session.start settings network
      (∀ names : NameTable,
        let s' := Session.start settings { network with names := names }
        s'.reports steps = s.reports steps ∧
          (s'.after steps).requests = (s.after steps).requests) ∧
      (∀ i : Nat, steps[i]? = some .connect → ∃ r, (s.reports steps)[i]? = some r ∧
        attempted r.log = [a.withPort settings.port] ∧
          (r.result = .ok .done ∨
            (∃ fault, r.result = .error (.connect (a.withPort settings.port) fault)) ∨
            r.result = .error (.timedOut settings.timeout))) ∧
      ∀ host : String, IPAddress.parse? host = some a →
        let s' := Session.start { settings with host := host } network
        s'.reports steps = (s.reports steps).map (StepReport.rehosted host) ∧
          (s'.after steps).requests = (s.after steps).requests := by
  refine ⟨fun a => ⟨a.parse?_text, a.text_withPort⟩, ?_⟩
  intro settings network steps a hliteral s
  have hs : IPAddress.parse? s.settings.host = some a := hliteral
  refine ⟨fun names => ?_, fun i hi => ?_, fun host hhost => ?_⟩
  · have hafter := congrArg Session.requests (Session.run_rehosted names hs hs steps).2
    exact ⟨Session.run_renamed names hs steps, hafter⟩
  · have hsettings : (s.after (steps.take i)).settings = settings :=
      Session.settings_after s (steps.take i)
    have hafter : IPAddress.parse? (s.after (steps.take i)).settings.host = some a := by
      rw [hsettings]
      exact hliteral
    have hreport := Session.report_connect_of_literal hafter
    rw [hsettings] at hreport
    refine ⟨(s.after (steps.take i)).report .connect, ?_, hreport⟩
    rw [Session.getElem?_reports, hi]
    rfl
  · obtain ⟨hreports, hafter⟩ := Session.run_rehosted network.names hs hhost steps
    have hrequests := congrArg Session.requests hafter
    exact ⟨hreports, hrequests⟩

/-- A mapped address with all its groups, and its canonical text. Both would be names of hosts
without an address. -/
theorem literal_host_stands_for_its_address_mapped :
    let settings : Settings := { host := "0:0:0:0:0:FFFF:1.2.3.4" }
    let ip : IPv6 := ⟨[0, 0, 0, 0, 0, 0xffff, 0x0102, 0x0304], rfl⟩
    let network : Network :=
      { names := [("0:0:0:0:0:FFFF:1.2.3.4", { answer := .ok [] }),
          ("::ffff:1.2.3.4", { answer := .ok [] })]
        servers := [⟨.v6 ip 0 502, .hang⟩, ⟨.v6 ip 0 502, .accept
          { replies := [.send [[0, 0, 0, 0, 0, 4, 1, 1, 1, 1]] none] }⟩] }
    let steps : List Step := [.connect, .connect, .read 7]
    let s := Session.start settings network
    let s' := Session.start { settings with host := "::ffff:1.2.3.4" } network
    IPAddress.parse? settings.host = some (.v6 ip) ∧
      IPAddress.parse? "::ffff:1.2.3.4" = some (.v6 ip) ∧
      (s.reports steps).map StepReport.result =
        [.error (.timedOut 3000), .ok .done, .ok (.coil true)] ∧
      s'.reports steps = (s.reports steps).map (StepReport.rehosted "::ffff:1.2.3.4") := by
  intro settings ip network steps s s'
  have hliteral : IPAddress.parse? settings.host = some (.v6 ip) := by decide +kernel
  have htext : String.ofList (IPAddress.v6 ip).text = "::ffff:1.2.3.4" := by decide +kernel
  obtain ⟨hcanonical, -⟩ := literal_host_stands_for_its_address.1 (.v6 ip)
  rw [htext] at hcanonical
  obtain ⟨-, -, hspelling⟩ :=
    literal_host_stands_for_its_address.2 settings network steps (.v6 ip) hliteral
  obtain ⟨hreports, -⟩ := hspelling "::ffff:1.2.3.4" hcanonical
  have hresults : (s.reports steps).map StepReport.result =
      [.error (.timedOut 3000), .ok .done, .ok (.coil true)] := by
    decide +kernel
  exact ⟨hliteral, hcanonical, hresults, hreports⟩

end CoilProbe
