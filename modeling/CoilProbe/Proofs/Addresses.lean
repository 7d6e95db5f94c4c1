import CoilProbe.Proofs.Lockstep
import CoilProbe.Proofs.Opacity
import CoilProbe.Proofs.Probes
import CoilProbe.Proofs.Records

/-!
# Where the address of a coil goes

Nobody looks into a request, so that a session goes on in the same way if the requests and the
events of reading are told without the addresses that they are for (`Session.run_unaddressed`). Two
sessions whose reads are for different coils thus differ in their requests only, and in these only
in the two bytes of the address (`address_goes_into_requests_only`).
-/

namespace CoilProbe

/-! ## Requests without their address -/

/-- A request with nothing in the place of the two bytes of its address. -/
def unaddressed (request : Bytes) : Bytes := request.take 8 ++ [0, 0] ++ request.drop 10

theorem unaddressed_encode (h : Header) (a : UInt16) :
    unaddressed (Request.encode ⟨h, a⟩) = Request.encode ⟨h, 0⟩ := by
  have hzero : wordBytes 0 = [0, 0] := by decide
  simp only [unaddressed, Request.encode, hzero]
  rfl

def Step.unaddressed : Step → Step
  | .read _ => .read 0
  | .connect => .connect
  | .isOpen => .isOpen
  | .settings => .settings

def Event.unaddressed : Event → Event
  | .reading _ => .reading 0
  | e => e

def StepReport.unaddressed (r : StepReport) : StepReport :=
  { r with log := r.log.map Event.unaddressed }

def Holding.unaddressed (c : Holding) : Holding :=
  { c with link := c.link.mapRequests CoilProbe.unaddressed }

def Session.unaddressed (s : Session) : Session :=
  { s with held := s.held.map Holding.unaddressed, past := s.past.map Holding.unaddressed }

theorem Holding.afterTurns_unaddressed (turns : Nat) (c : Holding) :
    c.unaddressed.afterTurns turns = (c.afterTurns turns).unaddressed := by
  simp only [Holding.unaddressed, Holding.afterTurns, Link.afterTurns, Link.mapRequests,
    Peer.afterTurns_mapRequests]

theorem Link.exchange_unaddressed (l : Link) (a : UInt16) :
    (l.mapRequests unaddressed).exchange 0 =
      { l.exchange a with link := (l.exchange a).link.mapRequests unaddressed } :=
  exchange_mapRequests (unaddressed_encode l.header a)

/-- The events of attempts are told as they are. -/
def Event.SparesAttempts (note : Event → Event) : Prop :=
  ∀ (s : Settings) (a : SocketAddress) (t : Attempt), (t.events s a).map note = t.events s a

theorem Event.unaddressed_spares : SparesAttempts Event.unaddressed := by
  intro s a t
  cases t <;> rfl

theorem Event.SparesAttempts.search {note : Event → Event} (h : SparesAttempts note)
    (s : Settings) (f : Failure) (as : List SocketAddress) (r : Roster) :
    (r.search s f as).log.map note = (r.search s f as).log := by
  induction as generalizing f r with
  | nil => rfl
  | cons a as ih =>
    rw [Roster.search_cons]
    cases (r.attempt a).1 with
    | accepted place service => exact h s a (.accepted place service)
    | failed fault | hung => simp only [List.map_append, h s a, ih]

namespace Session

theorem unaddressed_hold (place : Nat) (service : Service) (s : Session) :
    (hold place service s).unaddressed = hold place service s.unaddressed := by
  have hnew : (Link.connect s.settings.unit service).mapRequests CoilProbe.unaddressed =
      Link.connect s.settings.unit service := rfl
  cases hheld : s.held with
  | none =>
    simp only [hold, release, unaddressed, hheld, Holding.unaddressed, hnew, Option.map_some,
      Option.map_none, Option.toList, List.nil_append]
  | some c =>
    simp only [hold, release, unaddressed, hheld, Holding.unaddressed, hnew, Option.map_some,
      Option.toList, List.singleton_append, List.map_cons]

theorem searched_unaddressed (s : Session) {search : Search}
    (hlog : search.log.map Event.unaddressed = search.log) :
    s.unaddressed.searched search =
      ⟨(s.searched search).result, (s.searched search).log.map Event.unaddressed,
        (s.searched search).session.unaddressed⟩ := by
  unfold searched
  cases search.result with
  | error f => simp only [hlog]; rfl
  | ok found => simp only [hlog, unaddressed_hold]; rfl

theorem connect_unaddressed (s : Session) :
    s.unaddressed.connect =
      ⟨s.connect.result, s.connect.log.map Event.unaddressed, s.connect.session.unaddressed⟩ := by
  cases hres : s.names.resolve s.settings.host s.settings.timeout.toNat with
  | late => rw [connect_of_late hres, connect_of_late (s := s.unaddressed) hres]; rfl
  | failed fault => rw [connect_of_failed hres, connect_of_failed (s := s.unaddressed) hres]; rfl
  | found ips =>
    rw [connect_of_found hres, connect_of_found (s := s.unaddressed) hres]
    exact s.searched_unaddressed (Event.unaddressed_spares.search _ _ _ _)

theorem read_unaddressed (s : Session) (a : UInt16) :
    s.unaddressed.read 0 =
      ⟨(s.read a).result, (s.read a).log.map Event.unaddressed,
        (s.read a).session.unaddressed⟩ := by
  cases hheld : s.held with
  | none =>
    have hheld' : s.unaddressed.held = none := by rw [unaddressed, hheld]; rfl
    rw [read_of_not_held a hheld, read_of_not_held 0 hheld']
    rfl
  | some c =>
    have hheld' : s.unaddressed.held = some c.unaddressed := by rw [unaddressed, hheld]; rfl
    have hexchange : c.unaddressed.link.exchange 0 = _ := c.link.exchange_unaddressed a
    rw [read_of_held a hheld, read_of_held 0 hheld', hexchange]
    simp only [unaddressed, List.map_map, Function.comp_def, Holding.afterTurns_unaddressed]
    rfl

theorem step_unaddressed (s : Session) (step : Step) :
    s.unaddressed.report step.unaddressed = (s.report step).unaddressed ∧
      (s.unaddressed.perform step.unaddressed).session =
        (s.perform step).session.unaddressed := by
  have hopen (s : Session) : s.unaddressed.isOpen = s.isOpen := Option.isSome_map
  cases step with
  | connect =>
    simp only [Step.unaddressed, report, perform, connect_unaddressed, hopen,
      StepReport.unaddressed, and_self]
  | isOpen => simp only [Step.unaddressed, report, perform, hopen]; exact ⟨rfl, trivial⟩
  | settings => simp only [Step.unaddressed, report, perform, hopen]; exact ⟨rfl, trivial⟩
  | read a =>
    simp only [Step.unaddressed, report, perform, read_unaddressed s a, hopen,
      StepReport.unaddressed, and_self]

/-- A session whose reads are for other coils goes on in the same way. -/
theorem run_unaddressed (s : Session) (steps : List Step) :
    s.unaddressed.reports (steps.map Step.unaddressed) =
        (s.reports steps).map StepReport.unaddressed ∧
      s.unaddressed.after (steps.map Step.unaddressed) = (s.after steps).unaddressed :=
  @lockstep (fun _ => True) _ _ _ (fun _ _ _ => trivial)
    (fun s step _ => s.step_unaddressed step) s trivial steps

/-! ## The requests of two sessions -/

theorem connections_unaddressed (s : Session) :
    s.unaddressed.connections = s.connections.map Holding.unaddressed := by
  cases hheld : s.held with
  | none => simp [connections, release, unaddressed, hheld]
  | some c => simp [connections, release, unaddressed, hheld]

theorem takenAt_unaddressed {servers : List Server} {rs rs' : List (Option (Nat × UInt16))}
    {s : Session} (h : Inv servers rs s) (h' : Inv servers rs' s.unaddressed) (place : Nat) :
    s.unaddressed.takenAt place = (s.takenAt place).map CoilProbe.unaddressed := by
  have hplace : (fun c : Holding => c.place == place) ∘ Holding.unaddressed =
      fun c => c.place == place := rfl
  rw [h.takenAt_eq, h'.takenAt_eq, connections_unaddressed, List.find?_map, hplace]
  cases s.connections.find? fun c => c.place == place with
  | none => rfl
  | some c => exact c.link.requests_mapRequests

theorem readings_unaddressed (s : Session) (steps : List Step) :
    s.unaddressed.readings (steps.map Step.unaddressed) =
      (s.readings steps).map (Option.map fun r => (r.1, 0)) := by
  induction steps generalizing s with
  | nil => rfl
  | cons step steps ih =>
    have hfirst : s.unaddressed.reading? step.unaddressed =
        (s.reading? step).map fun r => (r.1, 0) := by
      cases step with
      | connect | isOpen | settings => rfl
      | read a =>
        simp only [Step.unaddressed, reading?, unaddressed, Option.map_map]
        rfl
    obtain ⟨-, hsession⟩ := s.step_unaddressed step
    rw [List.map_cons, readings, readings, List.map_cons, hfirst, hsession, ih]

/-- The places at which reads are made do not depend on what they are for. -/
theorem places_of_unaddressed (s : Session) (steps : List Step) :
    (s.readings steps).map (Option.map Prod.fst) =
      (s.unaddressed.readings (steps.map Step.unaddressed)).map (Option.map Prod.fst) := by
  rw [readings_unaddressed, List.map_map]
  refine List.map_congr_left fun r _ => ?_
  cases r <;> rfl

section Run

variable (settings : Settings) (network : Network) (steps : List Step)

theorem after_unaddressed :
    (start settings network).after (steps.map Step.unaddressed) =
      ((start settings network).after steps).unaddressed :=
  ((start settings network).run_unaddressed steps).2

/-- What a server has taken of the reads of a run is, but for their addresses, what it takes of
reads at the address zero. -/
theorem takenAt_after_unaddressed (place : Nat) :
    ((start settings network).after (steps.map Step.unaddressed)).takenAt place =
      (((start settings network).after steps).takenAt place).map CoilProbe.unaddressed := by
  have hinv := inv_after settings network (steps.map Step.unaddressed)
  rw [after_unaddressed] at hinv ⊢
  exact takenAt_unaddressed (inv_after settings network steps) hinv place

theorem requests_after_unaddressed :
    ((start settings network).after (steps.map Step.unaddressed)).requests =
      ((start settings network).after steps).requests.map (List.map CoilProbe.unaddressed) := by
  rw [(inv_after settings network _).requests_eq, (inv_after settings network steps).requests_eq,
    List.map_map]
  exact List.map_congr_left fun place _ => takenAt_after_unaddressed settings network steps place

/-- The requests of a run, given how many of them each server has taken. -/
theorem requests_eq_take {count : Nat → Nat}
    (hcount : ∀ place, (((start settings network).after steps).takenAt place).length =
      count place) :
    ((start settings network).after steps).requests = (acceptingPlaces network.servers).map
      fun place => (wire settings.unit
        (addressesAt place ((start settings network).readings steps))).take (count place) := by
  have hinv := inv_after settings network steps
  rw [hinv.requests_eq]
  refine List.map_congr_left fun place _ => ?_
  have hbegins := hinv.takenAt_begins place
  rw [settings_after] at hbegins
  rw [← hcount]
  exact List.prefix_iff_eq_take.1 hbegins

end Run

end Session

/-! ## The settings of a probe -/

/-- An event of a probe of another coil. -/
def Event.readdressed (a : UInt16) : Event → Event
  | .reading _ => .reading a
  | .coil _ target value => .coil a target value
  | e => e

theorem Event.readdressed_spares (b : UInt16) : SparesAttempts (Event.readdressed b) := by
  intro s a t
  cases t <;> rfl

theorem mapError_id {ε α : Type} (result : Except ε α) : result.mapError id = result := by
  cases result <;> rfl

namespace Session

/-- A session of settings with another coil. -/
def readdressed (a : UInt16) (s : Session) : Session :=
  { s with settings := { s.settings with address := a } }

theorem search_readdressed (a : UInt16) (s : Settings) (f : Failure) (as : List SocketAddress)
    (r : Roster) : r.search { s with address := a } f as = r.search s f as := by
  induction as generalizing f r with
  | nil => rfl
  | cons b as ih =>
    rw [Roster.search_cons, Roster.search_cons]
    cases (r.attempt b).1 with
    | accepted place service => rfl
    | failed fault | hung => simp only [ih]; rfl

theorem connect_readdressed (a : UInt16) (s : Session) :
    (s.readdressed a).connect =
      ⟨s.connect.result, s.connect.log, s.connect.session.readdressed a⟩ := by
  cases hres : s.names.resolve s.settings.host s.settings.timeout.toNat with
  | late => rw [connect_of_late hres, connect_of_late (s := s.readdressed a) hres]; rfl
  | failed fault => rw [connect_of_failed hres, connect_of_failed (s := s.readdressed a) hres]; rfl
  | found ips =>
    have hsearch := search_readdressed a s.settings (.noAddress s.settings.host)
      (targets s.settings ips) s.roster
    have hsame : (s.readdressed a).roster.search (s.readdressed a).settings
        (.noAddress (s.readdressed a).settings.host) (targets (s.readdressed a).settings ips) = _ :=
      hsearch
    rw [connect_of_found hres, connect_of_found (s := s.readdressed a) hres, hsame]
    unfold searched
    split <;> rfl

theorem read_readdressed (a b : UInt16) (s : Session) :
    (s.readdressed a).read b =
      ⟨(s.read b).result, (s.read b).log, (s.read b).session.readdressed a⟩ := by
  cases hheld : s.held with
  | none =>
    have hheld' : (s.readdressed a).held = none := hheld
    rw [read_of_not_held b hheld, read_of_not_held b hheld']
  | some c =>
    have hheld' : (s.readdressed a).held = some c := hheld
    rw [read_of_held b hheld, read_of_held b hheld']
    rfl

theorem connect_follows (a : UInt16) (s : Session) :
    s.connect.Follows id (Event.readdressed a) (s.readdressed a).connect := by
  rw [connect_readdressed]
  refine ⟨(mapError_id _).symm, ?_⟩
  cases hres : s.names.resolve s.settings.host s.settings.timeout.toNat with
  | late => rw [connect_of_late hres]; rfl
  | failed fault => rw [connect_of_failed hres]; rfl
  | found ips =>
    have hlog := (Event.readdressed_spares a).search s.settings (.noAddress s.settings.host)
      (targets s.settings ips) s.roster
    rw [connect_of_found hres]
    unfold searched
    split <;> exact hlog.symm

/-- Reads of different coils come to the same. -/
theorem read_follows (a b : UInt16) (s : Session) :
    (s.read b).Follows id (Event.readdressed a) (s.read a) := by
  have ha : (s.unaddressed.read 0).result = (s.read a).result := by rw [read_unaddressed s a]
  have hb : (s.unaddressed.read 0).result = (s.read b).result := by rw [read_unaddressed s b]
  refine ⟨?_, ?_⟩
  · rw [mapError_id, ← ha, hb]
  · cases hheld : s.held with
    | none => rw [read_of_not_held a hheld, read_of_not_held b hheld]; rfl
    | some c => rw [read_of_held a hheld, read_of_held b hheld]; rfl

end Session

/-! ## Main statement -/

theorem probe_readdressed (settings : Settings) (network : Network) (sink : Sink) (a : UInt16) :
    (probe { settings with address := a } network sink).result =
        (probe settings network sink).result ∧
      (probe { settings with address := a } network sink).sink =
        (probe settings network sink).sink ∧
      (probe { settings with address := a } network sink).log =
        (probe settings network sink).log.map (Event.readdressed a) ∧
      (probe { settings with address := a } network sink).requests.map (List.map unaddressed) =
        (probe settings network sink).requests.map (List.map unaddressed) := by
  have hstart : Session.start { settings with address := a } network =
      (Session.start settings network).readdressed a := rfl
  have hconnect : (Session.start settings network).connect.Follows id (Event.readdressed a)
      (Session.start { settings with address := a } network).connect :=
    Session.connect_follows a _
  have hread : ((Session.start settings network).connect.session.read settings.address).Follows id
      (Event.readdressed a)
      ((Session.start { settings with address := a } network).connect.session.read a) := by
    obtain ⟨hresult, hlog⟩ := Session.read_follows a settings.address
      (Session.start settings network).connect.session
    rw [hstart, Session.connect_readdressed, Session.read_readdressed]
    exact ⟨hresult, hlog⟩
  have hline : Settings.noConnection { settings with address := a } = settings.noConnection := rfl
  have hrefused (f : Failure) : Event.readdressed a (.noConnection settings.target f) =
      .noConnection (Settings.target { settings with address := a }) (id f) := rfl
  have hcoil (value : Bool) :
      Event.readdressed a (.coil settings.address settings.target value) =
        .coil a (Settings.target { settings with address := a }) value := rfl
  obtain ⟨hresult, hsink, hlog⟩ :=
    probe_lockstep sink (fun _ => rfl) hline hrefused hcoil hconnect hread
  refine ⟨hresult.trans (mapError_id _), hsink, hlog, ?_⟩
  have hsession : (Session.start { settings with address := a } network).after
      [.connect, .read a] =
        ((Session.start settings network).after [.connect, .read a]).readdressed a := by
    rw [hstart]
    simp only [Session.after_cons, Session.after_nil, Session.perform,
      Session.connect_readdressed, Session.read_readdressed]
  rw [Probe.requests, Probe.requests, session_probe, session_probe, hsession]
  have ha := Session.requests_after_unaddressed settings network [.connect, .read a]
  have hb := Session.requests_after_unaddressed settings network [.connect, .read settings.address]
  exact ha.symm.trans hb

/-- The address of a coil goes into the request for it and nowhere else. Two sessions of the same
settings and network whose steps differ in the addresses of reads only report the same of each step,
except for the addresses in the events of reading. They read over the same connections, and each
server takes equally many requests from both, which are the requests for the reads that each of them
has made there, so that they differ in the two bytes of the address only. Two probes whose settings
differ in the address only end in the same way, write the same, and tell the same but for it. -/
theorem address_goes_into_requests_only :
    (∀ (settings : Settings) (network : Network) (steps steps' : List Step),
      steps.map Step.unaddressed = steps'.map Step.unaddressed →
      let s := Session.start settings network
      (s.reports steps).map StepReport.unaddressed =
          (s.reports steps').map StepReport.unaddressed ∧
        (s.readings steps).map (Option.map Prod.fst) =
          (s.readings steps').map (Option.map Prod.fst) ∧
        (∃ count : Nat → Nat,
          (s.after steps).requests = (acceptingPlaces network.servers).map (fun place =>
            (wire settings.unit (addressesAt place (s.readings steps))).take (count place)) ∧
          (s.after steps').requests = (acceptingPlaces network.servers).map (fun place =>
            (wire settings.unit (addressesAt place (s.readings steps'))).take (count place))) ∧
        (s.after steps).requests.map (List.map unaddressed) =
          (s.after steps').requests.map (List.map unaddressed)) ∧
    ∀ (settings : Settings) (network : Network) (sink : Sink) (a : UInt16),
      let p := probe settings network sink
      let p' := probe { settings with address := a } network sink
      p'.result = p.result ∧ p'.sink = p.sink ∧ exitStatus p'.result = exitStatus p.result ∧
        p'.log = p.log.map (Event.readdressed a) ∧
        p'.requests.map (List.map unaddressed) = p.requests.map (List.map unaddressed) := by
  constructor
  · intro settings network steps steps' hsteps s
    have hreports := (s.run_unaddressed steps).1
    have hreports' := (s.run_unaddressed steps').1
    have htaken (place : Nat) : ((s.after steps').takenAt place).map unaddressed =
        ((s.after steps).takenAt place).map unaddressed := by
      have h := Session.takenAt_after_unaddressed settings network steps place
      rw [hsteps] at h
      exact (Session.takenAt_after_unaddressed settings network steps' place).symm.trans h
    have hcount (place : Nat) : ((s.after steps').takenAt place).length =
        ((s.after steps).takenAt place).length := by
      simpa using congrArg List.length (htaken place)
    refine ⟨?_, ?_, ⟨fun place => ((s.after steps).takenAt place).length,
      Session.requests_eq_take settings network steps fun _ => rfl,
      Session.requests_eq_take settings network steps' hcount⟩, ?_⟩
    · rw [← hreports, hsteps, hreports']
    · rw [s.places_of_unaddressed, hsteps, ← s.places_of_unaddressed]
    · rw [← Session.requests_after_unaddressed, hsteps, Session.requests_after_unaddressed]
  · intro settings network sink a p p'
    obtain ⟨hresult, hsink, hlog, hrequests⟩ := probe_readdressed settings network sink a
    exact ⟨hresult, hsink, congrArg exitStatus hresult, hlog, hrequests⟩

/-- A reply that comes too late and is taken for the next read, then a new connection. -/
theorem address_goes_into_requests_only_late :
    let settings : Settings := { host := "10.0.0.1", timeout := 0 }
    let network : Network :=
      { servers := [
          ⟨.v4 ⟨10, 0, 0, 1⟩ 502, .accept
            { replies := [.send [[], [0, 0, 0, 0, 0, 4, 1, 1, 1, 1]] none] }⟩,
          ⟨.v4 ⟨10, 0, 0, 1⟩ 502, .accept
            { replies := [.send [[0, 0, 0, 0, 0, 4, 1, 1, 1, 1]] none] }⟩] }
    let steps : List Step := [.connect, .read 7, .read 8, .connect, .read 300, .settings]
    let steps' : List Step := [.connect, .read 65535, .read 0, .connect, .read 1, .settings]
    let s := Session.start settings network
    steps.map Step.unaddressed = steps'.map Step.unaddressed ∧
      (s.reports steps').map StepReport.result = (s.reports steps).map StepReport.result ∧
      (s.after steps).requests =
        [[[0, 0, 0, 0, 0, 6, 1, 1, 0, 7, 0, 1], [0, 1, 0, 0, 0, 6, 1, 1, 0, 8, 0, 1]],
          [[0, 0, 0, 0, 0, 6, 1, 1, 1, 44, 0, 1]]] ∧
      (s.after steps').requests.map (List.map unaddressed) =
        [[[0, 0, 0, 0, 0, 6, 1, 1, 0, 0, 0, 1], [0, 1, 0, 0, 0, 6, 1, 1, 0, 0, 0, 1]],
          [[0, 0, 0, 0, 0, 6, 1, 1, 0, 0, 0, 1]]] := by
  intro settings network steps steps' s
  have hsteps : steps.map Step.unaddressed = steps'.map Step.unaddressed := by decide
  obtain ⟨hreports, -, -, hrequests⟩ :=
    address_goes_into_requests_only.1 settings network steps steps' hsteps
  have htaken : (s.after steps).requests =
      [[[0, 0, 0, 0, 0, 6, 1, 1, 0, 7, 0, 1], [0, 1, 0, 0, 0, 6, 1, 1, 0, 8, 0, 1]],
        [[0, 0, 0, 0, 0, 6, 1, 1, 1, 44, 0, 1]]] := by
    decide +kernel
  refine ⟨hsteps, ?_, htaken, ?_⟩
  · have h := congrArg (List.map StepReport.result) hreports
    rw [List.map_map, List.map_map] at h
    exact h.symm
  · rw [← hrequests, htaken]
    decide

end CoilProbe
