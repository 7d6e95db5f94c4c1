import CoilProbe.Proofs.Probes
import CoilProbe.Proofs.Reads
import Mathlib

/-!
# What servers take

The requests that a server has taken when a session is over are the first ones of those for the
reads over its connection, in order and without gaps. `forall₂_requests` turns a fact about each
server into one about the requests of all, and `requests_follow_reads` is the main statement, for
sessions and for probes.
-/

namespace CoilProbe

/-- Whether a server accepts the connection attempt that it gets. -/
def Server.accepting (s : Server) : Bool := Slot.accepting { server := s }

/-- The places of the servers that accept, in order: those for which requests are listed. -/
def acceptingPlaces (servers : List Server) : List Nat :=
  (servers.zipIdx.filter fun e => e.1.accepting).map Prod.snd

/-! ## The record of a server -/

namespace Roster

/-- What is known of all servers that accept is known of their requests, one after the other. -/
theorem forall₂_requests (P : Nat → List Bytes → Prop) (r : Roster) (n : Nat)
    (h : ∀ i slot, r[i]? = some slot → P (n + i) slot.requests) :
    List.Forall₂ P ((((r.map Slot.server).zipIdx n).filter fun e => e.1.accepting).map Prod.snd)
      r.requests := by
  induction r generalizing n with
  | nil => exact List.Forall₂.nil
  | cons slot rest ih =>
    have hlater : ∀ i s, rest[i]? = some s → P (n + 1 + i) s.requests := by
      intro i s hs
      have hplace : n + (i + 1) = n + 1 + i := by omega
      rw [← hplace]
      exact h (i + 1) s hs
    have hrest := ih (n + 1) hlater
    have hsame : slot.server.accepting = slot.accepting := rfl
    rw [List.map_cons, List.zipIdx_cons, requests]
    cases hacc : slot.accepting with
    | true =>
      rw [List.filter_cons_of_pos (by rw [hsame, hacc]), List.filter_cons_of_pos hacc]
      exact List.Forall₂.cons (h 0 slot rfl) hrest
    | false =>
      rw [List.filter_cons_of_neg (by rw [hsame, hacc]; exact Bool.false_ne_true),
        List.filter_cons_of_neg (by rw [hacc]; exact Bool.false_ne_true)]
      exact hrest

theorem getElem?_note (place : Nat) (taken : List Bytes) (r : Roster) (i : Nat) :
    (r.note place taken)[i]? =
      r[i]?.map fun slot => if place = i then { slot with requests := taken } else slot :=
  List.getElem?_modify _ _ _ _

/-- After some connections are over, a server's record is what it was, or what was taken over one of
them that was its own. -/
theorem getElem?_foldl_note {cs : List Holding} {r : Roster} {i : Nat} {slot : Slot}
    (h : (cs.foldl (fun r c => r.note c.place c.link.requests) r)[i]? = some slot) :
    ∃ before, r[i]? = some before ∧ slot.server = before.server ∧
      (slot.requests = before.requests ∨
        ∃ c ∈ cs, c.place = i ∧ slot.requests = c.link.requests) := by
  induction cs generalizing r with
  | nil => exact ⟨slot, h, rfl, .inl rfl⟩
  | cons c cs ih =>
    obtain ⟨noted, hnoted, hserver, hrequests⟩ := ih h
    rw [getElem?_note] at hnoted
    obtain ⟨before, hbefore, rfl⟩ := Option.map_eq_some_iff.1 hnoted
    by_cases hi : c.place = i
    · rw [if_pos hi] at hserver hrequests
      refine ⟨before, hbefore, hserver, ?_⟩
      rcases hrequests with hr | ⟨d, hd, hplace, hr⟩
      · exact .inr ⟨c, List.mem_cons_self, hi, hr⟩
      · exact .inr ⟨d, List.mem_cons_of_mem c hd, hplace, hr⟩
    · rw [if_neg hi] at hserver hrequests
      refine ⟨before, hbefore, hserver, ?_⟩
      rcases hrequests with hr | ⟨d, hd, hplace, hr⟩
      · exact .inl hr
      · exact .inr ⟨d, List.mem_cons_of_mem c hd, hplace, hr⟩

theorem map_server_note (place : Nat) (taken : List Bytes) (r : Roster) :
    (r.note place taken).map Slot.server = r.map Slot.server := by
  refine map_server_eq _ (getElem?_note place taken r) ?_
  intro i slot
  split <;> rfl

theorem map_server_foldl_note (cs : List Holding) (r : Roster) :
    (cs.foldl (fun r c => r.note c.place c.link.requests) r).map Slot.server =
      r.map Slot.server := by
  induction cs generalizing r with
  | nil => rfl
  | cons c cs ih => rw [List.foldl_cons, ih, map_server_note]

end Roster

/-! ## No more requests than reads -/

theorem nodup_acceptingPlaces (servers : List Server) : (acceptingPlaces servers).Nodup := by
  have hsub : (acceptingPlaces servers).Sublist (servers.zipIdx.map Prod.snd) :=
    List.filter_sublist.map Prod.snd
  refine hsub.nodup ?_
  rw [List.zipIdx_map_snd]
  exact List.nodup_range'

theorem sum_addressesAt_singleton (r : Option (Nat × UInt16)) {ps : List Nat} (h : ps.Nodup) :
    (ps.map fun p => (addressesAt p [r]).length).sum ≤ [r].countP Option.isSome := by
  cases r with
  | none => simp [addressesAt, List.map_const']
  | some r =>
    obtain ⟨q, a⟩ := r
    have hcount : (ps.map fun p => (addressesAt p [some (q, a)]).length).sum = ps.count q := by
      clear h
      induction ps with
      | nil => rfl
      | cons p ps ih =>
        rw [List.map_cons, List.sum_cons, ih, List.count_cons]
        by_cases hpq : q = p
        · subst hpq
          simp [addressesAt_self, Nat.add_comm]
        · simp [addressesAt_of_ne a hpq, Ne.symm hpq]
    rw [hcount]
    exact List.nodup_iff_count_le_one.1 h q

/-- The readings at different places are no more than the readings. -/
theorem sum_addressesAt_le (rs : List (Option (Nat × UInt16))) {ps : List Nat} (h : ps.Nodup) :
    (ps.map fun p => (addressesAt p rs).length).sum ≤ rs.countP Option.isSome := by
  induction rs with
  | nil => simp [addressesAt, List.map_const']
  | cons r rs ih =>
    have hsplit : (fun p => (addressesAt p (r :: rs)).length) =
        fun p => (addressesAt p [r]).length + (addressesAt p rs).length := by
      funext p
      rw [← List.singleton_append, addressesAt_append, List.length_append]
    have hcount : (r :: rs).countP Option.isSome =
        [r].countP Option.isSome + rs.countP Option.isSome := by
      rw [← List.countP_append, List.singleton_append]
    rw [hsplit, List.sum_map_add, hcount]
    exact Nat.add_le_add (sum_addressesAt_singleton r h) ih

theorem length_wire (unit : UInt8) (as : List UInt16) : (wire unit as).length = as.length :=
  List.length_mapIdx

/-- As many requests as reads at each place are no more than the reads. -/
theorem length_flatten_le {unit : UInt8} {rs : List (Option (Nat × UInt16))} {ps : List Nat}
    {requests : List (List Bytes)} (hnodup : ps.Nodup)
    (h : List.Forall₂ (fun p taken => taken <+: wire unit (addressesAt p rs)) ps requests) :
    requests.flatten.length ≤ rs.countP Option.isSome := by
  rw [List.length_flatten]
  have hle : (requests.map List.length).sum ≤ (ps.map fun p => (addressesAt p rs).length).sum := by
    clear hnodup
    induction h with
    | nil => exact Nat.le_refl _
    | cons hbegins _ ih =>
      have hlen := hbegins.length_le
      rw [length_wire] at hlen
      exact Nat.add_le_add hlen ih
  exact hle.trans (sum_addressesAt_le rs hnodup)

/-! ## Sessions -/

namespace Session

/-- Where no step of a run holds a connection, none reads. -/
theorem addressesAt_readings_of_not_held {s : Session} {place : Nat} {steps : List Step}
    (h : ∀ pre, pre <+: steps → (s.after pre).held.map Holding.place ≠ some place) :
    addressesAt place (s.readings steps) = [] := by
  induction steps generalizing s with
  | nil => rfl
  | cons step steps ih =>
    have hrest : addressesAt place ((s.perform step).session.readings steps) = [] :=
      ih fun pre hpre => h (step :: pre) (List.cons_prefix_cons.2 ⟨rfl, hpre⟩)
    have hnow := h [] List.nil_prefix
    rw [readings, ← List.singleton_append, addressesAt_append, hrest, List.append_nil]
    cases step with
    | connect => rfl
    | isOpen => rfl
    | settings => rfl
    | read a =>
      cases hheld : s.held with
      | none => simp only [reading?, hheld]; rfl
      | some c =>
        have hne : c.place ≠ place := fun e => hnow (by simp [hheld, e])
        simp only [reading?, hheld, Option.map_some]
        exact addressesAt_of_ne a hne

/-- What the record of a server holds in the end are the requests for the first reads over its
connection. -/
theorem Inv.requests_prefix {servers : List Server} {rs : List (Option (Nat × UInt16))}
    {s : Session} (h : Inv servers rs s) {i : Nat} {slot : Slot}
    (hslot : s.accounts[i]? = some slot) :
    slot.requests <+: wire s.settings.unit (addressesAt i rs) := by
  obtain ⟨before, hbefore, -, hrequests⟩ := Roster.getElem?_foldl_note hslot
  rcases hrequests with hr | ⟨c, hc, rfl, hr⟩
  · rw [hr, h.unrecorded before (List.mem_of_getElem? hbefore)]
    exact List.nil_prefix
  · rw [hr]
    exact (h.follows c hc).requests

theorem Inv.map_server_accounts {servers : List Server} {rs : List (Option (Nat × UInt16))}
    {s : Session} (h : Inv servers rs s) : s.accounts.map Slot.server = servers := by
  rw [accounts, Roster.map_server_foldl_note, h.servers_eq]

/-- Each list of requests of a session is that of an accepting server, and holds the requests for
the first reads over its connection. -/
theorem forall₂_requests_after (settings : Settings) (network : Network) (steps : List Step) :
    List.Forall₂
      (fun place taken => taken <+: wire settings.unit
        (addressesAt place ((start settings network).readings steps)))
      (acceptingPlaces network.servers) ((start settings network).after steps).requests := by
  have hinv := inv_after settings network steps
  have hslots : ∀ i slot, ((start settings network).after steps).accounts[i]? = some slot →
      slot.requests <+: wire settings.unit
        (addressesAt (0 + i) ((start settings network).readings steps)) := by
    intro i slot hslot
    have hbegins := hinv.requests_prefix hslot
    rw [settings_after] at hbegins
    rw [Nat.zero_add]
    exact hbegins
  have hall := Roster.forall₂_requests
    (fun place taken => taken <+: wire settings.unit
      (addressesAt place ((start settings network).readings steps))) _ 0 hslots
  rw [hinv.map_server_accounts] at hall
  exact hall

end Session

/-! ## The first request of a connection -/

/-- The server has taken one request and no other is on its way, or it takes this one in its next
turn. -/
def Peer.Takes (request : Bytes) (p : Peer) : Prop :=
  (p.received = [request] ∧ p.inbox = []) ∨
    (p.received = [] ∧ p.inbox = [request] ∧ p.serving = true ∧ p.outgoing = [] ∧
      p.nextReaction ≠ .reset)

namespace Peer

variable {request : Bytes} {p : Peer}

/-- A server that takes a request in its next turn has taken it after that turn. -/
theorem received_turn_of_takes (h : p.Takes request) :
    p.turn.received = [request] ∧ p.turn.inbox = [] := by
  have hwritten : p.turn.received ++ p.turn.inbox = p.received ++ p.inbox := p.written_turn
  have hbegins := p.received_prefix_turn
  rcases h with ⟨hreceived, hinbox⟩ | ⟨hreceived, hinbox, hserving, houtgoing, hreset⟩
  · rw [hreceived] at hbegins hwritten
    rw [hinbox] at hwritten
    obtain ⟨more, hmore⟩ := hbegins
    rw [← hmore, List.append_nil] at hwritten
    have hnil : more ++ p.turn.inbox = [] := by simpa using hwritten
    obtain ⟨hmore', hinbox'⟩ := List.append_eq_nil_iff.1 hnil
    rw [hmore', List.append_nil] at hmore
    exact ⟨hmore.symm, hinbox'⟩
  · have hidle : p.sendNext = p := by rw [sendNext, houtgoing]
    rw [turn, if_pos hserving, hidle, hinbox, serve, if_pos ⟨hserving, houtgoing⟩]
    cases hnext : p.nextReaction with
    | send chunks signoff =>
      simp only [serve, takeRequest, received_sendNext, hreceived, List.nil_append, and_self]
    | reset => exact absurd hnext hreset

/-- However long the client waits, the request is taken. -/
theorem takes_receive {intake : Intake} (buffer : Bytes) (h : p.Takes request) :
    (receive buffer intake p).peer.Takes request := by
  refine receive_preserves (Takes request) ?_ ?_ ?_ h
  · intro q hq
    exact .inl (received_turn_of_takes hq)
  · intro n q hq
    exact hq
  -- a server that has reset the connection takes nothing more
  · intro q hflow hq
    rcases hq with hq | ⟨-, -, hserving, -⟩
    · exact .inl hq
    · rw [serving, hflow] at hserving
      cases hserving

end Peer

theorem Peer.serving_accept {service : Service} (hopen : service.firstThen ≠ some .close) :
    (Peer.accept service).serving = true := by
  rw [Peer.accept, Peer.serving]
  cases hf : service.firstThen with
  | none => rfl
  | some signoff =>
    cases signoff with
    | close => exact absurd hf hopen
    | shutdown => rfl

/-- The first exchange over a connection waits for what comes of its request, unless the server has
closed the connection by then. -/
theorem Link.first_exchange (unit : UInt8) {service : Service} (a : UInt16)
    (hopen : service.firstThen ≠ some .close) :
    let receipt := receive [] (Link.connect unit service).intake
      { Peer.accept service with inbox := [requestBytes unit 0 a] }
    ((Link.connect unit service).exchange a).answer = receipt.arrival.answer ⟨0, unit⟩ ∧
      ((Link.connect unit service).exchange a).link.peer = receipt.peer := by
  intro receipt
  rcases (Link.connect unit service).exchange_cases a with
    ⟨-, hs⟩ | ⟨peer, -, -, -, hb⟩ | ⟨peer, hex, rfl, -⟩
  · rw [Link.connect, Peer.serving_accept hopen] at hs
    cases hs
  · cases hb
  · rw [hex]
    exact ⟨rfl, rfl⟩

/-- The request of the first exchange is taken by a server that has not closed the connection by
then, and does not reset it. -/
theorem Link.requests_of_first_exchange (unit : UInt8) (service : Service) (a : UInt16)
    (hopen : service.firstThen ≠ some .close) (hreset : service.replies.head? ≠ some .reset) :
    ((Link.connect unit service).exchange a).link.requests = [requestBytes unit 0 a] := by
  have htakes : { Peer.accept service with inbox := [requestBytes unit 0 a] : Peer }.Takes
      (requestBytes unit 0 a) := by
    refine .inr ⟨rfl, rfl, Peer.serving_accept hopen, rfl, ?_⟩
    cases hr : service.replies with
    | nil => simp [Peer.nextReaction, Peer.accept, hr]
    | cons reaction rest =>
      rw [hr] at hreset
      simpa [Peer.nextReaction, Peer.accept, hr] using hreset
  rw [Link.requests, (Link.first_exchange unit a hopen).2]
  exact (Peer.received_turn_of_takes (Peer.takes_receive [] htakes)).1

/-! ## All requests -/

/-- If every request of a list of lists is the same one, and there is one at most, then there is
none or just this one. -/
theorem flatten_eq_of_length_le {requests : List (List Bytes)} {request : Bytes}
    (hlen : requests.flatten.length ≤ 1) (hsame : ∀ r ∈ requests, ∀ x ∈ r, x = request) :
    requests.flatten = [] ∨ requests.flatten = [request] := by
  have hall : ∀ x ∈ requests.flatten, x = request := by
    intro x hx
    obtain ⟨r, hr, hxr⟩ := List.mem_flatten.1 hx
    exact hsame r hr x hxr
  match hf : requests.flatten with
  | [] => exact .inl rfl
  | [x] => exact .inr (by rw [hall x (by rw [hf]; exact List.mem_singleton_self x)])
  | x :: y :: more => rw [hf] at hlen; simp at hlen

theorem Roster.mem_requests {r : Roster} {i : Nat} {slot : Slot} (h : r[i]? = some slot)
    (hacc : slot.accepting = true) : slot.requests ∈ r.requests :=
  List.mem_map_of_mem (List.mem_filter.2 ⟨List.mem_of_getElem? h, hacc⟩)

namespace Session

/-- A session that makes its first connection holds a new one to a server that accepts, and no
other. -/
theorem held_of_first_connect {settings : Settings} {network : Network} {h : Holding}
    (hheld : (start settings network).connect.session.held = some h) :
    (start settings network).connect.session.past = [] ∧
      ∃ slot service, (start settings network).connect.session.roster[h.place]? = some slot ∧
        network.servers[h.place]? = some slot.server ∧
        slot.server.admission = .accept service ∧ h.link = .connect settings.unit service := by
  rcases (start settings network).connect_cases with ⟨f, log, places, hc⟩ |
    ⟨place, service, slot, log, places, hc, hplace, hslot, -, hadm⟩
  · rw [hc] at hheld
    cases hheld
  · rw [hc] at hheld ⊢
    cases hheld
    have hserver : network.servers[place]? = some slot.server :=
      (inv_start settings network).getElem?_servers hslot
    refine ⟨rfl, { slot with used := true }, service, ?_, hserver, hadm, rfl⟩
    rw [Roster.getElem?_spend, hslot]
    simp [hplace]

/-- A first connection over which one address is read is asked for that address, or it is another
one's. -/
theorem addressesAt_readings_connect_read (place : Nat) (s : Session) (a : UInt16) :
    addressesAt place (s.readings [.connect, .read a]) = [] ∨
      addressesAt place (s.readings [.connect, .read a]) = [a] := by
  have hreadings : s.readings [.connect, .read a] =
      [none] ++ [s.connect.session.held.map fun h => (h.place, a)] := rfl
  rw [hreadings, addressesAt_append, addressesAt_none, List.nil_append]
  cases s.connect.session.held with
  | none => exact .inl rfl
  | some h =>
    by_cases hplace : h.place = place
    · subst hplace
      exact .inr (addressesAt_self h.place a)
    · exact .inl (addressesAt_of_ne a hplace)

end Session

section Probe

variable (settings : Settings) (network : Network) (sink : Sink)

/-- A probe has one request taken at most, the first one of its connection for its coil. -/
theorem requests_probe_le :
    (probe settings network sink).requests.flatten = [] ∨
      (probe settings network sink).requests.flatten =
        [requestBytes settings.unit 0 settings.address] := by
  have hall := Session.forall₂_requests_after settings network
    [.connect, .read settings.address]
  rw [← session_probe settings network sink] at hall
  apply flatten_eq_of_length_le
  · refine (length_flatten_le (nodup_acceptingPlaces network.servers) hall).trans ?_
    simp only [Session.readings, Session.reading?, List.countP_cons, List.countP_nil]
    split <;> simp
  · intro taken htaken x hx
    obtain ⟨i, hi, rfl⟩ := List.getElem_of_mem htaken
    have hbegins := hall.get (hall.length_eq ▸ hi) hi
    have hwire := hbegins.mem hx
    rcases Session.addressesAt_readings_connect_read
      ((acceptingPlaces network.servers).get ⟨i, hall.length_eq ▸ hi⟩)
      (Session.start settings network) settings.address with hnone | hone
    · rw [hnone] at hwire
      cases hwire
    · rw [hone] at hwire
      exact List.mem_singleton.1 hwire

/-- A probe whose connection is accepted by a server that neither closes it at once nor resets it
has just this request taken. -/
theorem requests_probe_eq {h : Holding} {address : SocketAddress} {service : Service}
    (hheld : (Session.start settings network).connect.session.held = some h)
    (hserver : network.servers[h.place]? = some ⟨address, .accept service⟩)
    (hopen : service.firstThen ≠ some .close) (hreset : service.replies.head? ≠ some .reset) :
    (probe settings network sink).requests.flatten =
      [requestBytes settings.unit 0 settings.address] := by
  obtain ⟨hpast, slot, service', hslot, hsame, hadm, hlink⟩ := Session.held_of_first_connect hheld
  have hslotserver : slot.server = ⟨address, .accept service⟩ :=
    (Option.some.inj (hserver.symm.trans hsame)).symm
  have hservice : service' = service := by
    rw [hslotserver] at hadm
    exact (Admission.accept.inj hadm).symm
  have hrequest : (h.link.exchange settings.address).link.requests =
      [requestBytes settings.unit 0 settings.address] := by
    rw [hlink, hservice]
    exact Link.requests_of_first_exchange settings.unit service settings.address hopen hreset
  -- the record of the server is made from its only connection, when the session is over
  have hmem : [requestBytes settings.unit 0 settings.address] ∈
      (probe settings network sink).requests := by
    have haccounts : (probe settings network sink).session.accounts =
        (Session.start settings network).connect.session.roster.note h.place
          (h.link.exchange settings.address).link.requests := by
      rw [session_probe, Session.after_cons, Session.after_cons, Session.after_nil]
      simp only [Session.perform, Session.read_of_held settings.address hheld, Session.accounts,
        Session.release, hpast]
      rfl
    have hnoted : (probe settings network sink).session.accounts[h.place]? =
        some { slot with requests := [requestBytes settings.unit 0 settings.address] } := by
      rw [haccounts, Roster.getElem?_note, hslot, hrequest]
      simp
    refine Roster.mem_requests hnoted ?_
    rw [Slot.accepting, hslotserver]
  rcases requests_probe_le settings network sink with hnone | hone
  · have hin := List.mem_flatten.2 ⟨_, hmem, List.mem_singleton_self _⟩
    rw [hnone] at hin
    cases hin
  · exact hone

end Probe

/-! ## Main statement -/

/-- Let the addresses at a place be those of the reads made while the connection to the server at
that place was held, whether they failed or not. The requests that the server has taken when a
session is over are the first ones of those for these addresses, numbered from 0. A server that the
session was never connected to has taken none, and all servers together have taken no more requests
than there were reads. All servers together have taken one request at most when a probe is over,
number 0 for the unit and the coil of its settings, and just this one if the server that accepts
does not close the connection at once and does not reset it where it should reply. -/
theorem requests_follow_reads :
    (∀ (settings : Settings) (network : Network) (steps : List Step),
      List.Forall₂
        (fun place taken =>
          taken <+: wire settings.unit
            (addressesAt place ((Session.start settings network).readings steps)) ∧
          ((∀ pre, pre <+: steps →
            ((Session.start settings network).after pre).held.map Holding.place ≠ some place) →
              taken = []))
        (acceptingPlaces network.servers) ((Session.start settings network).after steps).requests ∧
      ((Session.start settings network).after steps).requests.flatten.length ≤
        ((Session.start settings network).readings steps).countP Option.isSome) ∧
    ∀ (settings : Settings) (network : Network) (sink : Sink),
      ((probe settings network sink).requests.flatten = [] ∨
        (probe settings network sink).requests.flatten =
          [requestBytes settings.unit 0 settings.address]) ∧
      ∀ (h : Holding) (address : SocketAddress) (service : Service),
        (Session.start settings network).connect.session.held = some h →
        network.servers[h.place]? = some ⟨address, .accept service⟩ →
        service.firstThen ≠ some .close → service.replies.head? ≠ some .reset →
        (probe settings network sink).requests.flatten =
          [requestBytes settings.unit 0 settings.address] := by
  constructor
  · intro settings network steps
    have hall := Session.forall₂_requests_after settings network steps
    refine ⟨hall.imp fun place taken hbegins => ⟨hbegins, fun hnever => ?_⟩,
      length_flatten_le (nodup_acceptingPlaces network.servers) hall⟩
    rw [Session.addressesAt_readings_of_not_held hnever] at hbegins
    exact List.prefix_nil.1 hbegins
  · intro settings network sink
    refine ⟨requests_probe_le settings network sink, ?_⟩
    intro h address service hheld hserver hopen hreset
    exact requests_probe_eq settings network sink hheld hserver hopen hreset

/-- A server that accepts and stays silent has taken the request of a probe. -/
theorem requests_follow_reads_silent :
    let settings : Settings := { host := "10.0.0.1" }
    let network : Network := { servers := [⟨.v4 ⟨10, 0, 0, 1⟩ 502, .accept {}⟩] }
    (probe settings network {}).requests.flatten = [[0, 0, 0, 0, 0, 6, 1, 1, 0, 103, 0, 1]] := by
  intro settings network
  have hheld : (Session.start settings network).connect.session.held =
      some ⟨0, .connect 1 {}⟩ := by
    decide
  have hone := (requests_follow_reads.2 settings network {}).2 ⟨0, .connect 1 {}⟩ _ {} hheld rfl
    nofun nofun
  rw [hone]
  decide

end CoilProbe
