import CoilProbe.Proofs.Runs
import CoilProbe.Proofs.Waiting

/-!
# Which reads go over which connection

A read of a session goes over the connection that is held, and a server has at most one connection,
so the reads over a connection are those at its server's place. `Session.Inv` ties every connection
of a session to these reads: it has counted them, and what has been written to its server is the
requests for the first of them, and for all of them as long as its server has not left. `inv_after`
says that this is so after every run.
-/

namespace CoilProbe

/-- The twelve bytes that ask a unit for the coil at an address, as request number `i` of its
connection: the number, which starts again after 65535, protocol id 0, length 6, the unit id,
function 1, the address, and a quantity of one. -/
def requestBytes (unit : UInt8) (i : Nat) (a : UInt16) : Bytes :=
  let t := UInt16.ofNat (i % 65536)
  [highByte t, lowByte t, 0, 0, 0, 6, unit, 1, highByte a, lowByte a, 0, 1]

/-- The requests for the coils at some addresses, one after the other on a new connection. -/
def wire (unit : UInt8) (as : List UInt16) : List Bytes := as.mapIdx (requestBytes unit)

/-- The addresses read over the connection to the server at a place. -/
def addressesAt (place : Nat) (readings : List (Option (Nat × UInt16))) : List UInt16 :=
  readings.filterMap fun r => r.bind fun (p, a) => if p = place then some a else none

namespace Session

/-- What a step reads over which connection: the place of the server that is asked, and the address,
if the step is a read and a connection is held. -/
def reading? (s : Session) : Step → Option (Nat × UInt16)
  | .read a => s.held.map fun h => (h.place, a)
  | .connect | .isOpen | .settings => none

/-- What each of some steps reads. -/
def readings (s : Session) : List Step → List (Option (Nat × UInt16))
  | [] => []
  | step :: steps => s.reading? step :: (s.perform step).session.readings steps

/-- All connections that a session has made, the last one first. -/
def connections (s : Session) : List Holding := s.release.past

end Session

/-! ## One connection -/

theorem ofNat_mod (i : Nat) : UInt16.ofNat (i % 65536) = UInt16.ofNat i := by
  apply UInt16.toNat.inj
  simp

theorem encode_eq (unit : UInt8) (i : Nat) (a : UInt16) :
    Request.encode ⟨⟨UInt16.ofNat i, unit⟩, a⟩ = requestBytes unit i a := by
  simp only [requestBytes, ofNat_mod]
  rfl

theorem wire_append (unit : UInt8) (as : List UInt16) (a : UInt16) :
    wire unit (as ++ [a]) = wire unit as ++ [requestBytes unit as.length a] := by
  simp [wire]

/-- A connection over which some addresses have been read, one after the other. -/
structure Link.Follows (unit : UInt8) (as : List UInt16) (l : Link) : Prop where
  /-- It addresses the unit. -/
  unit_eq : l.unit = unit
  /-- It has counted the reads. -/
  next_eq : l.next = UInt16.ofNat as.length
  /-- What was written are the requests for the first ones. -/
  written : l.peer.written <+: wire unit as
  /-- All requests were written if the server has not left. -/
  serving : l.peer.serving = true → l.peer.written = wire unit as

namespace Link.Follows

variable {unit : UInt8} {as : List UInt16} {l : Link}

theorem connect (unit : UInt8) (service : Service) : (Link.connect unit service).Follows unit [] :=
  ⟨rfl, rfl, List.nil_prefix, fun _ => rfl⟩

/-- An exchange is a read more. -/
theorem exchange (h : l.Follows unit as) (a : UInt16) :
    (l.exchange a).link.Follows unit (as ++ [a]) := by
  have hnext : l.next + 1 = UInt16.ofNat (as ++ [a]).length := by
    rw [h.next_eq, List.length_append]
    exact (UInt16.ofNat_add _ _).symm
  have hrequest : Request.encode ⟨l.header, a⟩ = requestBytes unit as.length a := by
    rw [header, h.next_eq, h.unit_eq, encode_eq]
  -- once the request is written, no turn and no taking of bytes matters
  have hwritten : ∀ q : Peer, q.written = l.peer.written ++ [Request.encode ⟨l.header, a⟩] →
      l.peer.serving = true → q.written = wire unit (as ++ [a]) := by
    intro q hq hs
    rw [hq, h.serving hs, hrequest, wire_append]
  rcases l.exchange_cases a with ⟨hex, hs⟩ | ⟨peer, hex, rfl, hs, -⟩ | ⟨peer, hex, hpeer, hs, -⟩
  · rw [hex]
    refine ⟨h.unit_eq, hnext, ?_, fun hc => ?_⟩
    · rw [wire_append]
      exact h.written.trans (List.prefix_append _ _)
    · exact absurd hc (by simp [hs])
  · rw [hex]
    have hall := hwritten { l.peer with inbox := l.peer.inbox ++ [Request.encode ⟨l.header, a⟩] }
      (by simp [Peer.written]) hs
    exact ⟨h.unit_eq, hnext, hall ▸ List.prefix_rfl, fun _ => hall⟩
  · rw [hex]
    have hall := hwritten (receive [] l.intake peer).peer
      (by rw [written_receive, hpeer]; simp [Peer.written]) hs
    exact ⟨h.unit_eq, hnext, hall ▸ List.prefix_rfl, fun _ => hall⟩

/-- Turns that nobody waits for on a connection are no reads. -/
theorem afterTurns (h : l.Follows unit as) (turns : Nat) :
    (l.afterTurns turns).Follows unit as where
  unit_eq := h.unit_eq
  next_eq := h.next_eq
  written := by rw [Link.afterTurns, Peer.written_afterTurns]; exact h.written
  serving := by
    intro hs
    rw [Link.afterTurns, Peer.written_afterTurns]
    exact h.serving (Peer.serving_of_afterTurns hs)

/-- What the server takes in the end are the requests for the first reads. -/
theorem requests (h : l.Follows unit as) : l.requests <+: wire unit as := by
  have htaken := l.peer.turn.received_prefix
  rw [Peer.written_turn] at htaken
  exact htaken.trans h.written

end Link.Follows

/-! ## The reads of a session -/

theorem addressesAt_append (place : Nat) (rs later : List (Option (Nat × UInt16))) :
    addressesAt place (rs ++ later) = addressesAt place rs ++ addressesAt place later :=
  List.filterMap_append

theorem addressesAt_none (place : Nat) : addressesAt place [none] = [] := rfl

theorem addressesAt_self (place : Nat) (a : UInt16) :
    addressesAt place [some (place, a)] = [a] := by
  simp [addressesAt]

theorem addressesAt_of_ne {place other : Nat} (a : UInt16) (h : other ≠ place) :
    addressesAt place [some (other, a)] = [] := by
  simp [addressesAt, h]

namespace Roster

theorem getElem?_spend (places : List Nat) (r : Roster) (i : Nat) :
    (r.spend places)[i]? =
      r[i]?.map fun slot => if i ∈ places then { slot with used := true } else slot :=
  List.getElem?_mapIdx

/-- What changes each slot on its own and no server does not change which servers there are. -/
theorem map_server_eq {r r' : Roster} (f : Nat → Slot → Slot)
    (hslots : ∀ i, r'[i]? = r[i]?.map (f i)) (hserver : ∀ i slot, (f i slot).server = slot.server) :
    r'.map Slot.server = r.map Slot.server := by
  apply List.ext_getElem?
  intro i
  have hsame : Slot.server ∘ f i = Slot.server := funext (hserver i)
  rw [List.getElem?_map, List.getElem?_map, hslots, Option.map_map, hsame]

theorem map_server_spend (places : List Nat) (r : Roster) :
    (r.spend places).map Slot.server = r.map Slot.server := by
  refine map_server_eq _ (getElem?_spend places r) ?_
  intro i slot
  split <;> rfl

/-- Attempts tell nothing of requests. -/
theorem requests_of_mem_spend {places : List Nat} {r : Roster} {slot : Slot}
    (h : slot ∈ r.spend places) : ∃ before ∈ r, slot.requests = before.requests := by
  obtain ⟨i, hi⟩ := List.getElem?_of_mem h
  rw [getElem?_spend] at hi
  obtain ⟨before, hbefore, rfl⟩ := Option.map_eq_some_iff.1 hi
  refine ⟨before, List.mem_of_getElem? hbefore, ?_⟩
  split <;> rfl

theorem used_spend {places : List Nat} {r : Roster} {i : Nat}
    (h : (∃ slot, r[i]? = some slot ∧ slot.used = true) ∨ i ∈ places ∧ ∃ slot, r[i]? = some slot) :
    ∃ slot, (r.spend places)[i]? = some slot ∧ slot.used = true := by
  rcases h with ⟨slot, hslot, hused⟩ | ⟨hi, slot, hslot⟩
  · refine ⟨_, by rw [getElem?_spend, hslot]; rfl, ?_⟩
    split
    · rfl
    · exact hused
  · exact ⟨_, by rw [getElem?_spend, hslot]; rfl, by simp [hi]⟩

end Roster

/-- A session whose steps so far have made some reads, among some servers. -/
structure Session.Inv (servers : List Server) (rs : List (Option (Nat × UInt16))) (s : Session) :
    Prop where
  /-- Every connection is that of the reads at its place. -/
  follows : ∀ h ∈ s.connections, h.link.Follows s.settings.unit (addressesAt h.place rs)
  /-- No server has two connections. -/
  nodup : (s.connections.map Holding.place).Nodup
  /-- A server with a connection has had its attempt. -/
  used : ∀ place ∈ s.connections.map Holding.place,
    ∃ slot, s.roster[place]? = some slot ∧ slot.used = true
  /-- Nothing was read from a server without a connection. -/
  unread : ∀ place, place ∉ s.connections.map Holding.place → addressesAt place rs = []
  /-- The servers are the same. -/
  servers_eq : s.roster.map Slot.server = servers
  /-- No request is recorded before the session is over. -/
  unrecorded : ∀ slot ∈ s.roster, slot.requests = []

namespace Session

variable {servers : List Server} {rs : List (Option (Nat × UInt16))} {s : Session}

theorem inv_start (settings : Settings) (network : Network) :
    Inv network.servers [] (start settings network) where
  follows := nofun
  nodup := List.nodup_nil
  used := nofun
  unread := fun _ _ => rfl
  servers_eq := by
    rw [start, Roster.ofServers, List.map_map]
    exact List.map_id _
  unrecorded := by
    intro slot hslot
    obtain ⟨server, -, rfl⟩ := List.mem_map.1 hslot
    rfl

/-- A step that reads nothing and leaves the connections alone changes nothing of note but which
servers have had their attempt. -/
theorem Inv.of_spend (h : Inv servers rs s) (places : List Nat) :
    Inv servers (rs ++ [none]) { s with roster := s.roster.spend places } where
  follows := by
    intro c hc
    rw [addressesAt_append, addressesAt_none, List.append_nil]
    exact h.follows c hc
  nodup := h.nodup
  used := by
    intro place hplace
    exact Roster.used_spend (.inl (h.used place hplace))
  unread := by
    intro place hplace
    rw [addressesAt_append, addressesAt_none, List.append_nil]
    exact h.unread place hplace
  servers_eq := (Roster.map_server_spend places s.roster).trans h.servers_eq
  unrecorded := by
    intro slot hslot
    obtain ⟨before, hbefore, hrequests⟩ := Roster.requests_of_mem_spend hslot
    rw [hrequests, h.unrecorded before hbefore]

theorem Inv.getElem?_servers (h : Inv servers rs s) {place : Nat} {slot : Slot}
    (hslot : s.roster[place]? = some slot) : servers[place]? = some slot.server := by
  rw [← h.servers_eq, List.getElem?_map, hslot, Option.map_some]

/-- A server that has had no attempt has no connection. -/
theorem Inv.notMem_of_unused (h : Inv servers rs s) {place : Nat} {slot : Slot}
    (hslot : s.roster[place]? = some slot) (hused : slot.used = false) :
    place ∉ s.connections.map Holding.place := by
  intro hmem
  obtain ⟨slot', hslot', hused'⟩ := h.used place hmem
  rw [hslot] at hslot'
  cases hslot'
  rw [hused] at hused'
  cases hused'

theorem connections_of_held {c : Holding} (hheld : s.held = some c) :
    s.connections = c :: s.past := by
  rw [connections, release, hheld, Option.toList_some, List.singleton_append]

/-- The server of the connection that is held has no other. -/
theorem Inv.place_ne (h : Inv servers rs s) {c d : Holding} (hheld : s.held = some c)
    (hd : d ∈ s.past) : c.place ≠ d.place := by
  have hnodup := h.nodup
  rw [connections_of_held hheld, List.map_cons, List.nodup_cons] at hnodup
  exact fun hsame => hnodup.1 (hsame ▸ List.mem_map_of_mem hd)

/-- A new connection is to a server that had none, so nothing was read over it yet. -/
theorem Inv.of_hold (h : Inv servers rs s) {places : List Nat} {place : Nat} {slot : Slot}
    (service : Service) (hplace : place ∈ places) (hslot : s.roster[place]? = some slot)
    (hused : slot.used = false) :
    Inv servers (rs ++ [none])
      { s with
        roster := s.roster.spend places
        held := some ⟨place, .connect s.settings.unit service⟩
        past := s.held.toList ++ s.past } := by
  have hnew := h.notMem_of_unused hslot hused
  have hs := h.of_spend places
  constructor
  case follows =>
    intro c hc
    rcases List.mem_cons.1 hc with rfl | hc
    · rw [addressesAt_append, addressesAt_none, List.append_nil, h.unread place hnew]
      exact Link.Follows.connect s.settings.unit service
    · exact hs.follows c hc
  case nodup => exact List.nodup_cons.2 ⟨hnew, h.nodup⟩
  case used =>
    intro p hp
    rcases List.mem_cons.1 hp with rfl | hp
    · exact Roster.used_spend (.inr ⟨hplace, slot, hslot⟩)
    · exact hs.used p hp
  case unread =>
    intro p hp
    exact hs.unread p fun hmem => hp (List.mem_cons_of_mem place hmem)
  case servers_eq => exact hs.servers_eq
  case unrecorded => exact hs.unrecorded

/-- A read is one more over the connection that is held, and none over the others. -/
theorem Inv.of_read (h : Inv servers rs s) {c : Holding} (hheld : s.held = some c) (a : UInt16) :
    Inv servers (rs ++ [some (c.place, a)]) (s.read a).session := by
  have hconn := connections_of_held hheld
  have hplaces : (s.read a).session.connections.map Holding.place =
      s.connections.map Holding.place := by
    rw [read_of_held a hheld, hconn]
    simp [connections, release, Holding.afterTurns]
  constructor
  case follows =>
    rw [read_of_held a hheld]
    intro c' hc'
    rcases List.mem_cons.1 hc' with rfl | hc'
    · rw [addressesAt_append, addressesAt_self]
      exact (h.follows c (by rw [hconn]; exact List.mem_cons_self)).exchange a
    · obtain ⟨d, hd, rfl⟩ := List.mem_map.1 hc'
      have hne := h.place_ne hheld hd
      have hd' := h.follows d (by rw [hconn]; exact List.mem_cons_of_mem c hd)
      rw [addressesAt_append, Holding.afterTurns, addressesAt_of_ne a hne, List.append_nil]
      exact hd'.afterTurns _
  case nodup => rw [hplaces]; exact h.nodup
  case used => rw [hplaces, read_of_held a hheld]; exact h.used
  case unread =>
    intro place hplace
    rw [hplaces] at hplace
    have hne : c.place ≠ place := by
      rintro rfl
      exact hplace (by rw [hconn]; exact List.mem_cons_self)
    rw [addressesAt_append, h.unread place hplace, addressesAt_of_ne a hne]
    rfl
  case servers_eq => rw [read_of_held a hheld]; exact h.servers_eq
  case unrecorded => rw [read_of_held a hheld]; exact h.unrecorded

theorem Inv.perform (h : Inv servers rs s) (step : Step) :
    Inv servers (rs ++ [s.reading? step]) (s.perform step).session := by
  have hsame : Inv servers (rs ++ [none]) s := by
    have := h.of_spend []
    rw [Roster.spend_nil] at this
    exact this
  cases step with
  | connect =>
    rcases s.connect_cases with ⟨f, log, places, hc⟩ |
      ⟨place, service, slot, log, places, hc, hplace, hslot, hused, -⟩
    · simp only [Session.perform, hc]
      exact h.of_spend places
    · simp only [Session.perform, hc]
      exact h.of_hold service hplace hslot hused
  | isOpen => exact hsame
  | settings => exact hsame
  | read a =>
    cases hheld : s.held with
    | none =>
      simp only [Session.perform, read_of_not_held a hheld, reading?, hheld]
      exact hsame
    | some c =>
      simp only [Session.perform, reading?, hheld]
      exact h.of_read hheld a

theorem Inv.after (h : Inv servers rs s) (steps : List Step) :
    Inv servers (rs ++ s.readings steps) (s.after steps) := by
  induction steps generalizing rs s with
  | nil => rw [readings, List.append_nil]; exact h
  | cons step steps ih =>
    have := ih (h.perform step)
    rw [List.append_assoc, List.singleton_append] at this
    exact this

/-- Every connection of a session is, at every time, that of the reads made over it. -/
theorem inv_after (settings : Settings) (network : Network) (steps : List Step) :
    Inv network.servers ((start settings network).readings steps)
      ((start settings network).after steps) :=
  (inv_start settings network).after steps

theorem readings_append (s : Session) (pre post : List Step) :
    s.readings (pre ++ post) = s.readings pre ++ (s.after pre).readings post := by
  induction pre generalizing s with
  | nil => rfl
  | cons step pre ih =>
    have hrest := ih (s.perform step).session
    simp only [List.cons_append, readings, after_cons, hrest]

/-- A connection that is made is one to a server that accepts and that had no connection before, and
the connections that were made before are held no more. -/
theorem Inv.of_connected (h : Inv servers rs s) (hok : s.connect.result = .ok ()) :
    ∃ place address service, servers[place]? = some ⟨address, .accept service⟩ ∧
      place ∉ s.connections.map Holding.place ∧
      s.connect.session.held = some ⟨place, .connect s.settings.unit service⟩ ∧
      s.connect.session.past = s.connections := by
  rcases s.connect_cases with ⟨f, log, places, hc⟩ |
    ⟨place, service, slot, log, places, hc, hplace, hslot, hused, hadm⟩
  · rw [hc] at hok
    cases hok
  · refine ⟨place, slot.server.address, service, ?_, h.notMem_of_unused hslot hused, by rw [hc],
      by rw [hc]; rfl⟩
    rw [h.getElem?_servers hslot, ← hadm]

end Session

/-! ## What all connections have in common -/

/-- A property of a connection, given the place of its server and the addresses read over it, that
new connections have and that exchanges and turns preserve. -/
structure Link.Invariant (unit : UInt8) (servers : List Server)
    (P : Nat → List UInt16 → Link → Prop) : Prop where
  connect : ∀ place address service, servers[place]? = some ⟨address, .accept service⟩ →
    P place [] (.connect unit service)
  exchange : ∀ place as l a, P place as l → P place (as ++ [a]) (l.exchange a).link
  afterTurns : ∀ place as l turns, P place as l → P place as (l.afterTurns turns)

namespace Session

variable {P : Nat → List UInt16 → Link → Prop}

theorem Inv.connections_perform (h : Inv servers rs s)
    (hP : Link.Invariant s.settings.unit servers P)
    (hall : ∀ c ∈ s.connections, P c.place (addressesAt c.place rs) c.link) (step : Step) :
    ∀ c ∈ (s.perform step).session.connections,
      P c.place (addressesAt c.place (rs ++ [s.reading? step])) c.link := by
  have hsame : ∀ c ∈ s.connections, P c.place (addressesAt c.place (rs ++ [none])) c.link := by
    intro c hc
    rw [addressesAt_append, addressesAt_none, List.append_nil]
    exact hall c hc
  cases step with
  | connect =>
    cases hresult : s.connect.result with
    | error f =>
      obtain ⟨log, places, hc⟩ := connect_of_error hresult
      simp only [Session.perform, hc]
      exact hsame
    | ok u =>
      obtain ⟨place, address, service, hserver, hnew, hheld, hpast⟩ := h.of_connected hresult
      have hconn : s.connect.session.connections =
          ⟨place, .connect s.settings.unit service⟩ :: s.connections := by
        rw [connections_of_held hheld, hpast]
      intro c hc
      rcases List.mem_cons.1 (hconn ▸ hc) with rfl | hc
      · rw [reading?, addressesAt_append, addressesAt_none, h.unread place hnew]
        exact hP.connect place address service hserver
      · exact hsame c hc
  | isOpen => exact hsame
  | settings => exact hsame
  | read a =>
    cases hheld : s.held with
    | none =>
      simp only [Session.perform, read_of_not_held a hheld, reading?, hheld]
      exact hsame
    | some d =>
      rw [connections_of_held hheld] at hall
      simp only [Session.perform, read_of_held a hheld, reading?, hheld]
      intro c hc
      rw [addressesAt_append]
      rcases List.mem_cons.1 hc with rfl | hc
      · rw [Option.map_some, addressesAt_self]
        exact hP.exchange _ _ _ a (hall d List.mem_cons_self)
      · obtain ⟨e, he, rfl⟩ := List.mem_map.1 hc
        have hne := h.place_ne hheld he
        rw [Option.map_some, Holding.afterTurns, addressesAt_of_ne a hne, List.append_nil]
        exact hP.afterTurns _ _ _ _ (hall e (List.mem_cons_of_mem d he))

/-- What new connections have and exchanges and turns preserve, all connections have after every
run. -/
theorem connections_induction {settings : Settings} {network : Network}
    (hP : Link.Invariant settings.unit network.servers P) (steps : List Step) :
    ∀ c ∈ ((start settings network).after steps).connections,
      P c.place (addressesAt c.place ((start settings network).readings steps)) c.link := by
  have hrun : ∀ (steps : List Step) (rs : List (Option (Nat × UInt16))) (s : Session),
      s.settings = settings → Inv network.servers rs s →
      (∀ c ∈ s.connections, P c.place (addressesAt c.place rs) c.link) →
      ∀ c ∈ (s.after steps).connections,
        P c.place (addressesAt c.place (rs ++ s.readings steps)) c.link := by
    intro steps
    induction steps with
    | nil =>
      intro rs s _ _ hall
      rw [readings, List.append_nil]
      exact hall
    | cons step steps ih =>
      intro rs s hs hinv hall
      have hnext := ih (rs ++ [s.reading? step]) (s.perform step).session
        ((settings_perform s step).trans hs) (hinv.perform step)
        (hinv.connections_perform (hs ▸ hP) hall step)
      rw [List.append_assoc, List.singleton_append] at hnext
      exact hnext
  exact hrun steps [] (start settings network) rfl (inv_start settings network) nofun

end Session

end CoilProbe
