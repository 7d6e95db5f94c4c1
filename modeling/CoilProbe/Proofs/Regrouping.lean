import CoilProbe.Proofs.Probes
import CoilProbe.Proofs.Streams

/-!
# Bytes in other chunks

Where a server cuts what it sends into chunks makes no difference to a probe: `probe_of_regrouped`.
The search for a server does not look at what servers send, so two networks that differ in the
chunks only are searched alike, and the one exchange of a probe comes to the same since it sees the
same stream.
-/

namespace CoilProbe

/-! ## Networks that differ in the chunks -/

/-- The same bytes in chunks, at least one and none of them empty. -/
structure SameStream (cs cs' : List Bytes) : Prop where
  bytes : cs.flatten = cs'.flatten
  some : cs ≠ []
  some' : cs' ≠ []
  solid : [] ∉ cs
  solid' : [] ∉ cs'

/-- The same replies, except that the first one may come in other chunks. -/
def FirstRegrouped (rs rs' : List Reaction) : Prop :=
  rs = rs' ∨ ∃ cs cs' signoff later, SameStream cs cs' ∧
    rs = .send cs signoff :: later ∧ rs' = .send cs' signoff :: later

/-- Services that send the same, in other chunks up to the end of the first reply. -/
structure Service.Regrouped (s s' : Service) : Prop where
  first : s.first.flatten = s'.first.flatten
  firstThen : s.firstThen = s'.firstThen
  replies : FirstRegrouped s.replies s'.replies

/-- The same admission, or the acceptance by services that send the same in other chunks. -/
inductive Admission.Regrouped : Admission → Admission → Prop
  | same (a : Admission) : Regrouped a a
  | accept {s s' : Service} (h : s.Regrouped s') : Regrouped (.accept s) (.accept s')

structure Server.Regrouped (s s' : Server) : Prop where
  address : s.address = s'.address
  admission : s.admission.Regrouped s'.admission

/-- Networks with the same names and with servers that send the same in other chunks. -/
structure Network.Regrouped (n n' : Network) : Prop where
  names : n.names = n'.names
  servers : List.Forall₂ Server.Regrouped n.servers n'.servers

theorem Service.Regrouped.refl (s : Service) : s.Regrouped s := ⟨rfl, rfl, .inl rfl⟩

/-! ## The exchange of a probe -/

/-- Two servers' ends that look the same and bring the same after that. -/
theorem exists_brings_of_regrouped {s s' : Service} (h : s.Regrouped s') (request : Bytes)
    {cs cs' : List Bytes} {signoff : Option Signoff} {later : List Reaction}
    (hreplies : s.replies = .send cs signoff :: later)
    (hreplies' : s'.replies = .send cs' signoff :: later) (hsame : SameStream cs cs') :
    ∃ bytes ending,
      { Peer.accept s with inbox := [request] : Peer }.Brings bytes ending ∧
        { Peer.accept s' with inbox := [request] : Peer }.Brings bytes ending := by
  have hfirstThen := h.firstThen
  cases hleft : s.firstThen with
  | none =>
    rw [hleft] at hfirstThen
    refine ⟨cs.flatten, Peer.leave signoff .both, ?_, ?_⟩
    · refine .asked ?_ rfl rfl ?_ hsame.some hsame.solid
      · simp only [Peer.accept, hleft, Peer.leave]
      · simp only [Peer.accept, Peer.nextReaction, hreplies, List.headD_cons]
    · rw [hsame.bytes]
      refine .asked ?_ rfl rfl ?_ hsame.some' hsame.solid'
      · simp only [Peer.accept, ← hfirstThen, Peer.leave]
      · simp only [Peer.accept, Peer.nextReaction, hreplies', List.headD_cons]
  | some signoff' =>
    rw [hleft] at hfirstThen
    have hflow : (Peer.accept s).flow = (Peer.accept s').flow := by
      simp only [Peer.accept, hleft, ← hfirstThen]
    have hgone : (Peer.accept s).flow ≠ .both := by
      simp only [Peer.accept, hleft, Peer.leave]
      cases signoff' <;> decide
    refine ⟨[], (Peer.accept s).flow, ?_, ?_⟩
    · exact .left (p := { Peer.accept s with inbox := [request] }) hgone
    · rw [hflow]
      exact .left (p := { Peer.accept s' with inbox := [request] }) (hflow ▸ hgone)

/-- No request can be written to a server that closes the connection at once. -/
theorem exchange_of_closed (unit : UInt8) (a : UInt16) {s : Service}
    (hclosed : s.firstThen = some .close) :
    ((Link.connect unit s).exchange a).answer = .fault (.io .brokenPipe) ∧
      ((Link.connect unit s).exchange a).link.requests = [] := by
  have hflow : (Link.connect unit s).peer.flow = .closed := by
    simp only [Link.connect, Peer.accept, hclosed, Peer.leave]
  have hgone : (Link.connect unit s).peer.serving = false := by
    rw [Peer.serving, hflow]
  rcases (Link.connect unit s).exchange_cases a with
    ⟨hex, -⟩ | ⟨peer, -, -, hs, -⟩ | ⟨peer, -, -, hs, -⟩
  · rw [hex, Link.requests, Peer.turn, hgone]
    exact ⟨rfl, rfl⟩
  · rw [hgone] at hs
    cases hs
  · rw [hgone] at hs
    cases hs

/-- What the first exchange over a connection comes to is what the stream comes to. -/
theorem answer_of_first_exchange (unit : UInt8) (a : UInt16) {s : Service}
    (hopen : s.firstThen ≠ some .close) {bytes : Bytes} {ending : Flow}
    (hbrings : { Peer.accept s with inbox := [requestBytes unit 0 a] : Peer }.Brings
      bytes ending) :
    ((Link.connect unit s).exchange a).answer =
      (Arrival.ofStream (s.first.flatten ++ bytes) ending).answer ⟨0, unit⟩ := by
  have hstream : [] ++ s.first.flatten ++ bytes = s.first.flatten ++ bytes := rfl
  rw [(Link.first_exchange unit a hopen).1, arrival_receive ⟨bytes, hbrings, hstream⟩]

/-- The first exchange over a connection comes to the same in whatever chunks the server sends, and
the server has taken the same requests when it is over. -/
theorem exchange_of_regrouped (unit : UInt8) (a : UInt16) {s s' : Service} (h : s.Regrouped s') :
    ((Link.connect unit s).exchange a).answer = ((Link.connect unit s').exchange a).answer ∧
      ((Link.connect unit s).exchange a).link.requests =
        ((Link.connect unit s').exchange a).link.requests := by
  rcases h.replies with hsame | ⟨cs, cs', signoff, later, hstream, hreplies, hreplies'⟩
  · have haccept : Peer.accept s = Peer.accept s' := by
      simp only [Peer.accept, h.first, h.firstThen, hsame]
    rw [Link.connect, Link.connect, haccept]
    exact ⟨rfl, rfl⟩
  · by_cases hclosed : s.firstThen = some .close
    · have hclosed' := h.firstThen.symm.trans hclosed
      obtain ⟨hanswer, hrequests⟩ := exchange_of_closed unit a hclosed
      obtain ⟨hanswer', hrequests'⟩ := exchange_of_closed unit a hclosed'
      exact ⟨hanswer.trans hanswer'.symm, hrequests.trans hrequests'.symm⟩
    · have hclosed' : s'.firstThen ≠ some .close := h.firstThen ▸ hclosed
      have hreset : s.replies.head? ≠ some .reset := by
        rw [hreplies]
        intro h
        cases h
      have hreset' : s'.replies.head? ≠ some .reset := by
        rw [hreplies']
        intro h
        cases h
      obtain ⟨bytes, ending, hbrings, hbrings'⟩ :=
        exists_brings_of_regrouped h (requestBytes unit 0 a) hreplies hreplies' hstream
      rw [answer_of_first_exchange unit a hclosed hbrings,
        answer_of_first_exchange unit a hclosed' hbrings', h.first,
        Link.requests_of_first_exchange unit s a hclosed hreset,
        Link.requests_of_first_exchange unit s' a hclosed' hreset']
      exact ⟨rfl, rfl⟩

/-! ## The search of a probe -/

/-- Slots that differ in the chunks which their servers send. -/
structure Slot.Regrouped (slot slot' : Slot) : Prop where
  server : slot.server.Regrouped slot'.server
  used : slot.used = slot'.used
  requests : slot.requests = slot'.requests

/-- The same attempt, or the acceptance by services that send the same in other chunks. -/
inductive Attempt.Regrouped : Attempt → Attempt → Prop
  | accepted (place : Nat) {s s' : Service} (h : s.Regrouped s') :
      Regrouped (.accepted place s) (.accepted place s')
  | failed (fault : IoFault) : Regrouped (.failed fault) (.failed fault)
  | hung : Regrouped .hung .hung

theorem Attempt.regrouped_ofAdmission (place : Nat) {a a' : Admission} (h : a.Regrouped a') :
    (ofAdmission place a).Regrouped (ofAdmission place a') := by
  cases h with
  | same =>
    cases a with
    | accept s => exact .accepted place (.refl s)
    | refuse fault => exact .failed fault
    | hang => exact .hung
  | accept hs => exact .accepted place hs

theorem Slot.Regrouped.awaits_eq {slot slot' : Slot} (h : slot.Regrouped slot')
    (a : SocketAddress) : slot.awaits a = slot'.awaits a := by
  rw [awaits, awaits, h.used, h.server.address]

theorem Slot.Regrouped.accepting_eq {slot slot' : Slot} (h : slot.Regrouped slot') :
    slot.accepting = slot'.accepting := by
  rw [accepting, accepting]
  generalize slot.server.admission = a, slot'.server.admission = a', h.server.admission = ha
  cases ha with
  | same => rfl
  | accept => rfl

namespace Roster

variable {r r' : Roster}

theorem regrouped_ofServers {servers servers' : List Server}
    (h : List.Forall₂ Server.Regrouped servers servers') :
    List.Forall₂ Slot.Regrouped (ofServers servers) (ofServers servers') :=
  List.rel_map (fun _ _ hserver => ⟨hserver, rfl, rfl⟩) h

theorem regrouped_attempt (h : List.Forall₂ Slot.Regrouped r r') (a : SocketAddress) (n : Nat) :
    (attemptFrom a n r).1.Regrouped (attemptFrom a n r').1 ∧
      List.Forall₂ Slot.Regrouped (attemptFrom a n r).2 (attemptFrom a n r').2 := by
  induction h generalizing n with
  | nil => exact ⟨.failed _, .nil⟩
  | @cons slot slot' rest rest' hslot hrest ih =>
    rw [attemptFrom, attemptFrom, ← hslot.awaits_eq a]
    by_cases hawaits : slot.awaits a = true
    · rw [if_pos hawaits, if_pos hawaits]
      exact ⟨Attempt.regrouped_ofAdmission n hslot.server.admission,
        .cons ⟨hslot.server, rfl, hslot.requests⟩ hrest⟩
    · rw [if_neg hawaits, if_neg hawaits]
      obtain ⟨hattempt, hlater⟩ := ih (n + 1)
      exact ⟨hattempt, .cons hslot hlater⟩

theorem regrouped_note (h : List.Forall₂ Slot.Regrouped r r') (place : Nat) (taken : List Bytes) :
    List.Forall₂ Slot.Regrouped (r.note place taken) (r'.note place taken) := by
  induction h generalizing place with
  | nil => cases place <;> exact .nil
  | cons hslot hrest ih =>
    cases place with
    | zero => exact .cons ⟨hslot.server, hslot.used, rfl⟩ hrest
    | succ place => exact .cons hslot (ih place)

theorem requests_of_regrouped (h : List.Forall₂ Slot.Regrouped r r') :
    r.requests = r'.requests := by
  have haccepting : List.Forall₂ Slot.Regrouped (r.filter Slot.accepting)
      (r'.filter Slot.accepting) :=
    List.rel_filter (fun _ _ hslot => iff_of_eq (congrArg (· = true) hslot.accepting_eq)) h
  have hrequests : List.Forall₂ (· = ·) r.requests r'.requests :=
    List.rel_map (fun _ _ hslot => hslot.requests) haccepting
  rwa [List.forall₂_eq_eq_eq] at hrequests

/-- A search finds the same server or fails alike, whatever the chunks. -/
theorem regrouped_search (s : Settings) (as : List SocketAddress) (f : Failure)
    (h : List.Forall₂ Slot.Regrouped r r') :
    (r.search s f as).log = (r'.search s f as).log ∧
      List.Forall₂ Slot.Regrouped (r.search s f as).roster (r'.search s f as).roster ∧
      ((∃ g, (r.search s f as).result = .error g ∧ (r'.search s f as).result = .error g) ∨
        ∃ place service service', service.Regrouped service' ∧
          (r.search s f as).result = .ok (place, service) ∧
          (r'.search s f as).result = .ok (place, service')) := by
  induction as generalizing f r r' with
  | nil => exact ⟨rfl, h, .inl ⟨f, rfl, rfl⟩⟩
  | cons a as ih =>
    obtain ⟨hattempt, hroster⟩ := regrouped_attempt h a 0
    rw [search_cons, search_cons]
    unfold attempt
    generalize (attemptFrom a 0 r).1 = t, (attemptFrom a 0 r').1 = t' at hattempt
    cases hattempt with
    | accepted place hservice =>
      exact ⟨rfl, hroster, .inr ⟨place, _, _, hservice, rfl, rfl⟩⟩
    | failed fault =>
      obtain ⟨hlog, hlater, hresult⟩ := ih (.connect a fault) hroster
      exact ⟨congrArg ((Attempt.failed fault).events s a ++ ·) hlog, hlater, hresult⟩
    | hung =>
      obtain ⟨hlog, hlater, hresult⟩ := ih (.timedOut s.timeout) hroster
      exact ⟨congrArg (Attempt.hung.events s a ++ ·) hlog, hlater, hresult⟩

end Roster

/-! ## The probe -/

namespace Session

variable {s s' : Session}

/-- Sessions that talk to servers which differ in the chunks come to the same when they connect,
and differ in the chunks only after it. -/
theorem regrouped_connect (hsettings : s.settings = s'.settings) (hnames : s.names = s'.names)
    (hroster : List.Forall₂ Slot.Regrouped s.roster s'.roster) :
    ∃ r r' log, List.Forall₂ Slot.Regrouped r r' ∧
      ((∃ f, s.connect = ⟨.error f, log, { s with roster := r }⟩ ∧
          s'.connect = ⟨.error f, log, { s' with roster := r' }⟩) ∨
        ∃ place service service', service.Regrouped service' ∧
          s.connect = ⟨.ok (), log, hold place service { s with roster := r }⟩ ∧
          s'.connect = ⟨.ok (), log, hold place service' { s' with roster := r' }⟩) := by
  have hresolve : s'.names.resolve s'.settings.host s'.settings.timeout.toNat =
      s.names.resolve s.settings.host s.settings.timeout.toNat := by
    rw [hsettings, hnames]
  cases hres : s.names.resolve s.settings.host s.settings.timeout.toNat with
  | late =>
    refine ⟨_, _, [], hroster, .inl ⟨_, connect_of_late hres, ?_⟩⟩
    rw [connect_of_late (hresolve.trans hres), hsettings]
  | failed fault =>
    refine ⟨_, _, [], hroster, .inl ⟨_, connect_of_failed hres, ?_⟩⟩
    rw [connect_of_failed (hresolve.trans hres), hsettings]
  | found ips =>
    have hconnect := connect_of_found hres
    have hconnect' := connect_of_found (hresolve.trans hres)
    rw [← hsettings] at hconnect'
    obtain ⟨hlog, hrosters, hresult⟩ := Roster.regrouped_search s.settings
      (targets s.settings ips) (.noAddress s.settings.host) hroster
    refine ⟨_, _, (s.roster.search s.settings (.noAddress s.settings.host)
      (targets s.settings ips)).log, hrosters, ?_⟩
    rcases hresult with ⟨f, hf, hf'⟩ | ⟨place, service, service', hservice, hok, hok'⟩
    · refine .inl ⟨f, ?_, ?_⟩
      · rw [hconnect, searched, hf]
      · rw [hconnect', searched, hf', hlog]
    · refine .inr ⟨place, service, service', hservice, ?_, ?_⟩
      · rw [hconnect, searched, hok]
      · rw [hconnect', searched, hok', hlog]

/-- Connecting and reading, as a probe does, come to the same and get the same requests taken. -/
theorem regrouped_read {network network' : Network} (h : network.Regrouped network')
    (settings : Settings) (a : UInt16) :
    let opened := (start settings network).connect
    let opened' := (start settings network').connect
    let read := opened.session.read a
    let read' := opened'.session.read a
    opened.result = opened'.result ∧ opened.log = opened'.log ∧ read.result = read'.result ∧
      read.log = read'.log ∧ read.session.requests = read'.session.requests := by
  have hsettings : (start settings network).settings = (start settings network').settings := rfl
  obtain ⟨r, r', log, hroster, ⟨f, hc, hc'⟩ | ⟨place, service, service', hservice, hc, hc'⟩⟩ :=
    regrouped_connect hsettings h.names (Roster.regrouped_ofServers h.servers)
  · rw [hc, hc']
    exact ⟨rfl, rfl, rfl, rfl, Roster.requests_of_regrouped hroster⟩
  · obtain ⟨hanswer, htaken⟩ := exchange_of_regrouped settings.unit a hservice
    have hrequests := Roster.requests_of_regrouped (Roster.regrouped_note hroster place
      ((Link.connect settings.unit service).exchange a).link.requests)
    rw [hc, hc']
    refine ⟨rfl, rfl, congrArg (coilOf settings.timeout) hanswer, rfl, hrequests.trans ?_⟩
    rw [htaken]
    rfl

end Session

/-- Where servers cut what they send into chunks makes no difference to a probe. On networks that
send the same bytes, of the first reply and before any request, it ends in the same way, writes the
same and reports the same, and the same requests are taken. -/
theorem probe_of_regrouped {network network' : Network} (h : network.Regrouped network')
    (settings : Settings) (sink : Sink) :
    let p := probe settings network sink
    let p' := probe settings network' sink
    p.result = p'.result ∧ p.sink = p'.sink ∧ p.report? settings = p'.report? settings ∧
      exitStatus p.result = exitStatus p'.result ∧ p.requests = p'.requests ∧ p.log = p'.log := by
  intro p p'
  obtain ⟨hconnect, htried, hvalue, hread, htaken⟩ :=
    Session.regrouped_read h settings settings.address
  obtain ⟨hresult, hlog, hsink⟩ : p.result = p'.result ∧ p.log = p'.log ∧ p.sink = p'.sink :=
    probe_congr hconnect htried fun _ => ⟨hvalue, hread⟩
  have hrequests : p.requests = p'.requests := by
    rw [Probe.requests, Probe.requests, session_probe, session_probe]
    exact htaken
  refine ⟨hresult, hsink, ?_, ?_, hrequests, hlog⟩
  · rw [Probe.report?, Probe.report?, hresult]
  · rw [hresult]

/-- A header that comes partly before the request, and is cut there and in the reply, which has a
byte too many after the frame and the end of the stream after that. -/
theorem probe_of_regrouped_header :
    let service : Service := { first := [[0, 0], [0]], replies :=
      [.send [[0, 0, 4, 1, 1, 1, 1, 9]] (some .close)] }
    let service' : Service := { first := [[], [0, 0, 0]], replies :=
      [.send [[0, 0], [4, 1, 1], [1], [1, 9]] (some .close)] }
    let network : Network := { servers := [⟨.v4 ⟨10, 0, 0, 1⟩ 502, .accept service⟩] }
    let network' : Network := { servers := [⟨.v4 ⟨10, 0, 0, 1⟩ 502, .accept service'⟩] }
    let settings : Settings := { host := "10.0.0.1", timeout := 0 }
    network.Regrouped network' ∧
      (probe settings network {}).result = .ok (.value true) ∧
      (probe settings network' {}).result = .ok (.value true) := by
  intro service service' network network' settings
  have hsame : SameStream [[0, 0, 4, 1, 1, 1, 1, 9]] [[0, 0], [4, 1, 1], [1], [1, 9]] :=
    ⟨rfl, nofun, nofun, by decide, by decide⟩
  have hservice : service.Regrouped service' := ⟨rfl, rfl, .inr ⟨_, _, _, _, hsame, rfl, rfl⟩⟩
  have h : network.Regrouped network' := ⟨rfl, .cons ⟨rfl, .accept hservice⟩ .nil⟩
  have hvalue : (probe settings network {}).result = .ok (.value true) := by decide +kernel
  obtain ⟨hresult, -⟩ := probe_of_regrouped h settings {}
  exact ⟨h, hvalue, hresult.symm.trans hvalue⟩

end CoilProbe
