import CoilProbe.Proofs.Answers
import CoilProbe.Proofs.Renewals

/-!
# Servers that keep to the protocol

A server that answers each request with one frame for it, or not at all, is read exactly, however
many reads there are: `reads_of_conforming`. Between two reads nothing is on its way and nothing is
left over, which is what `Link.Settled` says and `Link.Settled.exchange` preserves.
`connections_induction` takes what one exchange preserves to all connections of all sessions.
-/

namespace CoilProbe

/-- A frame of protocol zero, as it travels. -/
def frameBytes (transaction : UInt16) (unit : UInt8) (body : Bytes) : Bytes :=
  wordBytes transaction ++ wordBytes 0 ++ wordBytes (UInt16.ofNat (body.length + 1)) ++ unit :: body

/-- What a server that keeps to the protocol does about a request. -/
inductive Conduct where
  /-- It is silent. -/
  | silent
  /-- It sends a byte with the coil in its lowest bit. -/
  | value (data : UInt8)
  /-- It refuses. -/
  | refusal (code : ExceptionCode)
deriving DecidableEq

namespace Conduct

/-- The body of the answer. -/
def body? : Conduct → Option Bytes
  | .silent => none
  | .value data => some [1, 1, data]
  | .refusal code => some [0x81, code.number]

/-- What the server does about request number `n` of a connection. -/
def reaction (unit : UInt8) (n : Nat) (c : Conduct) : Reaction :=
  .send (c.body?.map (frameBytes (UInt16.ofNat (n % 65536)) unit)).toList none

/-- What a read comes to that the server so answers. -/
def result (timeout : UInt64) : Conduct → Except Failure Bool
  | .silent => .error (.timedOut timeout)
  | .value data => .ok (decide (data.toNat % 2 = 1))
  | .refusal code => .error (.exception code)

end Conduct

/-- A service that sends nothing of its own accord and does about each request what it is said to
do; it is silent about requests after the last reply of its script. -/
structure Service.Conforms (unit : UInt8) (conduct : Nat → Conduct) (s : Service) : Prop where
  first : s.first = []
  firstThen : s.firstThen = none
  replies : ∀ n, s.replies.getD n (.send [] none) = (conduct n).reaction unit n

/-- The service of a server that does some things about the first requests and is silent then. -/
def Service.ofConducts (unit : UInt8) (cs : List Conduct) : Service :=
  { replies := cs.mapIdx fun n c => c.reaction unit n }

theorem Service.conforms_ofConducts (unit : UInt8) (cs : List Conduct) :
    (ofConducts unit cs).Conforms unit fun n => cs.getD n .silent := by
  refine ⟨rfl, rfl, fun n => ?_⟩
  rw [ofConducts, List.getD_eq_getElem?_getD, List.getD_eq_getElem?_getD, List.getElem?_mapIdx]
  cases cs[n]? <;> rfl

/-! ## One frame and nothing else -/

section Frame

variable {t : UInt16} {unit : UInt8} {body : Bytes}

theorem startsWithFrame_frameBytes (hbody : body.length + 1 < 65536) :
    StartsWithFrame (frameBytes t unit body) t 0 unit body := by
  refine ⟨UInt16.ofNat (body.length + 1), [], ?_, (List.append_nil _).symm⟩
  rw [UInt16.toNat_ofNat']
  exact Nat.mod_eq_of_lt hbody

/-- A part of a frame is not enough. -/
theorem scan_of_part (hbody : body.length + 1 < 65536) {part : Bytes}
    (hpart : part <+: frameBytes t unit body)
    (hlt : part.length < (frameBytes t unit body).length) : scan part = .incomplete := by
  have hlength : (UInt16.ofNat (body.length + 1)).toNat = body.length + 1 := by
    rw [UInt16.toNat_ofNat']
    exact Nat.mod_eq_of_lt hbody
  unfold scan
  split
  · rename_i t1 t0 p1 p0 l1 l0 u rest
    -- the length has arrived, but not all that it counts
    simp only [frameBytes, wordBytes, List.cons_append, List.nil_append, List.cons_prefix_cons]
      at hpart
    obtain ⟨-, -, -, -, rfl, rfl, -, -⟩ := hpart
    simp only [frameBytes, List.length_append, length_wordBytes, List.length_cons] at hlt
    simp only [word_wordBytes, hlength]
    rw [if_neg (Nat.succ_ne_zero _), if_pos (by omega)]
  · rfl

end Frame

/-- A wait takes a frame whole that has arrived with nothing behind it, in as many pieces as it has
room for, and needs no turn of the server for it. -/
theorem receive_of_whole (buffer : Bytes) (intake : Intake) {p : Peer} {f : Frame}
    (hwhole : scan (buffer ++ p.arrived) = .complete f)
    (hpart : ∀ part, part <+: buffer ++ p.arrived → part.length < (buffer ++ p.arrived).length →
      scan part = .incomplete) :
    ∃ i, receive buffer intake p =
      ⟨.frame f, buffer ++ p.arrived, 0, i, { p with arrived := [] }⟩ := by
  have hnone : ∀ {buffer : Bytes} {q : Peer}, scan (buffer ++ q.arrived) = .complete f →
      q.arrived = [] → scan buffer ≠ .incomplete := by
    intro buffer q hq harr hscan
    rw [harr, List.append_nil, hscan] at hq
    cases hq
  have hsome : ∀ {buffer : Bytes} {q : Peer}, (∀ part, part <+: buffer ++ q.arrived →
      part.length < (buffer ++ q.arrived).length → scan part = .incomplete) →
      scan buffer ≠ .incomplete → q.arrived = [] := by
    intro buffer q hq hscan
    by_contra harr
    have hpos := List.length_pos_iff.2 harr
    refine hscan (hq buffer (List.prefix_append _ _) ?_)
    rw [List.length_append]
    omega
  fun_induction receive buffer intake p with
  | case1 buffer intake p g hscan =>
    have hnow : scan buffer ≠ .incomplete := by
      intro h
      cases hscan.symm.trans h
    have harr := hsome hpart hnow
    rw [harr, List.append_nil, hscan] at hwhole
    cases hwhole
    have hp : p = { p with arrived := [] } := by rw [← harr]
    rw [harr, List.append_nil, ← hp]
    exact ⟨_, rfl⟩
  | case2 buffer _ p fault hscan =>
    have hnow : scan buffer ≠ .incomplete := by
      intro h
      cases hscan.symm.trans h
    have harr := hsome hpart hnow
    rw [harr, List.append_nil, hscan] at hwhole
    cases hwhole
  | case3 _ _ p hscan _ harr => exact absurd hscan (hnone hwhole harr)
  | case4 _ _ p hscan _ harr => exact absurd hscan (hnone hwhole harr)
  | case5 _ _ p hscan _ harr => exact absurd hscan (hnone hwhole harr)
  | case6 _ _ p hscan _ harr => exact absurd hscan (hnone hwhole harr)
  | case7 _ _ p hscan _ harr => exact absurd hscan (hnone hwhole harr)
  | case8 buffer _ p _ intake _ count ih =>
    have hsplit : (buffer ++ p.arrived.take count) ++ (p.afterTaking count).arrived =
        buffer ++ p.arrived := by
      rw [List.append_assoc, Peer.afterTaking, List.take_append_drop]
    rw [hsplit] at ih
    exact ih hwhole hpart

/-! ## Settled connections -/

namespace Peer

/-- The server's end of a connection when it has taken some requests and nothing is on its way. -/
def settled (service : Service) (taken : List Bytes) : Peer where
  arrived := []
  flow := .both
  inbox := []
  received := taken
  outgoing := []
  signoff := none
  reactions := service.replies.drop taken.length

variable {service : Service} {taken : List Bytes}

theorem afterTurns_settled (turns : Nat) :
    (settled service taken).afterTurns turns = settled service taken := by
  induction turns with
  | zero => rfl
  | succ turns ih => exact ih

theorem nextReaction_settled :
    (settled service taken).nextReaction = service.replies.getD taken.length (.send [] none) := by
  rw [nextReaction, settled, List.headD_eq_head?_getD, List.head?_drop, List.getD_eq_getElem?_getD]

/-- A turn in which the server takes a request and sends at most one chunk for it. -/
theorem turn_of_request (request : Bytes) {chunk? : Option Bytes}
    (hnext : (settled service taken).nextReaction = .send chunk?.toList none) :
    { settled service taken with inbox := [request] : Peer }.turn =
      { settled service (taken ++ [request]) with arrived := chunk?.getD [] : Peer } := by
  have hreactions : (service.replies.drop taken.length).tail =
      service.replies.drop (taken ++ [request]).length := by
    rw [List.tail_drop, List.length_append]
    rfl
  have hserve : { settled service taken with inbox := [request] : Peer }.turn =
      serve [request] { settled service taken with inbox := [request] : Peer } := rfl
  have hsame : { settled service taken with inbox := [request] : Peer }.nextReaction =
      .send chunk?.toList none := hnext
  rw [hserve, serve, if_pos ⟨rfl, rfl⟩, hsame]
  cases chunk? with
  | none => simp only [serve, takeRequest, sendNext, settled, hreactions, Option.toList, leave,
      if_true, Option.getD]
  | some chunk => simp [serve, takeRequest, sendNext, settled, hreactions, leave]

end Peer

/-- A wait begins with a turn of the server if nothing has arrived. -/
theorem receive_of_turn (intake : Intake) {p : Peer} (harr : p.arrived = [])
    (hflow : p.flow = .both) :
    ∃ i, receive [] intake p =
      if p.turn.arrived = [] ∧ p.turn.flow = .both then ⟨.silence, [], 1, i, p.turn⟩
      else (receive [] i p.turn).afterTurn := by
  refine ⟨intake.prepare 0, ?_⟩
  rw [receive]
  simp only [scan, harr, dite_true, List.length_nil]
  split
  case h_4 => rfl
  all_goals
    rename_i hleft
    rw [hflow] at hleft
    cases hleft

/-- A wait in whose first turn the server sends a whole frame takes it and ends. -/
theorem receive_of_frame (intake : Intake) {p : Peer} (harr : p.arrived = [])
    (hflow : p.flow = .both) {t : UInt16} {unit : UInt8} {body : Bytes} {reply : Reply}
    (hbody : body.length + 1 < 65536)
    (hdecode : Reply.decode body = .ok reply)
    (hturn : p.turn.arrived = frameBytes t unit body) :
    ∃ i, receive [] intake p =
      ⟨.frame ⟨⟨t, unit⟩, reply⟩, frameBytes t unit body, 1, i, { p.turn with arrived := [] }⟩ := by
  have hscan : scan (frameBytes t unit body) = .complete ⟨⟨t, unit⟩, reply⟩ := by
    rw [(startsWithFrame_frameBytes hbody).scan, Frame.decode, if_neg (not_not_intro rfl), hdecode]
  have hmore : ¬(p.turn.arrived = [] ∧ p.turn.flow = .both) := by
    rw [hturn]
    exact fun h => absurd h.1 (by simp [frameBytes])
  obtain ⟨i, hreceive⟩ := receive_of_turn intake harr hflow
  obtain ⟨j, hwhole⟩ := receive_of_whole [] i (p := p.turn)
    (by rw [List.nil_append, hturn, hscan])
    (fun part hpart hlt => by
      rw [List.nil_append, hturn] at hpart hlt
      exact scan_of_part hbody hpart hlt)
  rw [if_neg hmore, hwhole, List.nil_append, hturn] at hreceive
  exact ⟨j, hreceive⟩

/-- What the body of an answer says to the request that it answers. -/
theorem Conduct.decode_body {c : Conduct} {body : Bytes} (h : c.body? = some body) :
    ∃ reply, Reply.decode body = .ok reply ∧
      ∀ header timeout, Session.coilOf timeout (Frame.answer header ⟨header, reply⟩) =
        c.result timeout := by
  cases c with
  | silent => cases h
  | value data =>
    cases h
    refine ⟨.answer (.readCoils ([data].flatMap coilsOfByte)), rfl, fun header timeout => ?_⟩
    obtain ⟨more, hmore⟩ := coilsOfByte_eq data
    rw [Frame.answer, if_neg (not_not_intro rfl), List.flatMap_cons, hmore]
    rfl
  | refusal code =>
    cases h
    refine ⟨.refusal ⟨.readCoils, code⟩, rfl, fun header timeout => ?_⟩
    rw [Frame.answer, if_neg (not_not_intro rfl)]
    rfl

theorem Conduct.eq_silent_of_body {c : Conduct} (h : c.body? = none) : c = .silent := by
  cases c with
  | silent => rfl
  | value data => cases h
  | refusal code => cases h

theorem Conduct.length_body_lt {c : Conduct} {body : Bytes} (h : c.body? = some body) :
    body.length + 1 < 65536 := by
  cases c with
  | silent => cases h
  | value data => cases h; exact (by decide : 3 + 1 < 65536)
  | refusal code => cases h; exact (by decide : 2 + 1 < 65536)

namespace Link

/-- A connection over which some addresses have been read, and nothing is on its way. -/
def Settled (unit : UInt8) (service : Service) (as : List UInt16) (l : Link) : Prop :=
  ∃ intake, l = ⟨unit, .settled service (wire unit as), intake, UInt16.ofNat as.length, false⟩

variable {unit : UInt8} {service : Service} {conduct : Nat → Conduct} {as : List UInt16} {l : Link}

theorem Settled.connect (h : service.Conforms unit conduct) :
    (Link.connect unit service).Settled unit service [] := by
  refine ⟨{}, ?_⟩
  simp only [Link.connect, Peer.accept, Peer.settled, h.first, h.firstThen, Peer.leave]
  rfl

theorem Settled.afterTurns (h : l.Settled unit service as) (turns : Nat) :
    (l.afterTurns turns).Settled unit service as := by
  obtain ⟨intake, rfl⟩ := h
  refine ⟨intake, ?_⟩
  rw [Link.afterTurns, Peer.afterTurns_settled]

theorem Settled.requests (h : l.Settled unit service as) : l.requests = wire unit as := by
  obtain ⟨intake, rfl⟩ := h
  rfl

/-- An exchange over a settled connection comes to what the server does about the request, and
leaves the connection settled. -/
theorem Settled.exchange (hconforms : service.Conforms unit conduct)
    (h : l.Settled unit service as) (a : UInt16) :
    (∀ timeout, Session.coilOf timeout (l.exchange a).answer =
        (conduct as.length).result timeout) ∧
      (l.exchange a).link.Settled unit service (as ++ [a]) := by
  obtain ⟨intake, rfl⟩ := h
  have hreaction : (Peer.settled service (wire unit as)).nextReaction =
      .send ((conduct as.length).body?.map
        (frameBytes (UInt16.ofNat as.length) unit)).toList none := by
    rw [Peer.nextReaction_settled, length_wire, hconforms.replies, Conduct.reaction, ofNat_mod]
  have hnext : UInt16.ofNat as.length + 1 = UInt16.ofNat (as ++ [a]).length := by
    rw [List.length_append]
    exact (UInt16.ofNat_add _ _).symm
  rcases exchange_cases a ⟨unit, .settled service (wire unit as), intake, UInt16.ofNat as.length,
    false⟩ with ⟨-, hs⟩ | ⟨peer, -, -, -, hb⟩ | ⟨peer, hex, hpeer, -, -⟩
  · cases hs
  · cases hb
  · -- the request is written, and the server takes it in the first turn of the wait
    have hturn : peer.turn = { Peer.settled service (wire unit (as ++ [a])) with
        arrived := ((conduct as.length).body?.map
          (frameBytes (UInt16.ofNat as.length) unit)).getD [] : Peer } := by
      have htaken := Peer.turn_of_request (requestBytes unit as.length a) hreaction
      rw [← wire_append] at htaken
      rw [hpeer, header, encode_eq]
      exact htaken
    have harr : peer.arrived = [] := by
      rw [hpeer]
      rfl
    have hflow : peer.flow = .both := by
      rw [hpeer]
      rfl
    rw [hex, hnext]
    cases hbody : (conduct as.length).body? with
    | none =>
      have hsilent := Conduct.eq_silent_of_body hbody
      obtain ⟨i, hreceive⟩ := receive_of_turn intake harr hflow
      rw [hbody] at hturn
      rw [hturn, if_pos ⟨rfl, rfl⟩] at hreceive
      rw [hreceive, hsilent]
      exact ⟨fun timeout => rfl, i, rfl⟩
    | some body =>
      obtain ⟨reply, hdecode, hresult⟩ := Conduct.decode_body hbody
      have harrived : peer.turn.arrived = frameBytes (UInt16.ofNat as.length) unit body := by
        rw [hturn, hbody]
        rfl
      obtain ⟨i, hreceive⟩ := receive_of_frame intake harr hflow (Conduct.length_body_lt hbody)
        hdecode harrived
      rw [hreceive, hturn]
      exact ⟨fun timeout => hresult _ timeout, i, rfl⟩

end Link

/-! ## Sessions with a conforming server -/

namespace Session

/-- Reads go over the connection that is held. -/
theorem addressesAt_reads {s : Session} {place : Nat}
    (hheld : s.held.map Holding.place = some place) (as : List UInt16) :
    addressesAt place (s.readings (as.map .read)) = as := by
  have hkeeps : s.Keeps (as.map .read) := keeps_of_notMem (by simp)
  rw [(hkeeps.addressesAt hheld).1, List.filterMap_map]
  exact List.filterMap_some

section Conforming

variable {settings : Settings} {network : Network} {place : Nat} {address : SocketAddress}
  {service : Service} {conduct : Nat → Conduct}

/-- Every connection to a conforming server is settled between the steps of a session. -/
theorem settled_after (hserver : network.servers[place]? = some ⟨address, .accept service⟩)
    (hconforms : service.Conforms settings.unit conduct) (steps : List Step) {c : Holding}
    (hc : c ∈ ((start settings network).after steps).connections) (hplace : c.place = place) :
    c.link.Settled settings.unit service
      (addressesAt place ((start settings network).readings steps)) := by
  have hinvariant : Link.Invariant settings.unit network.servers
      fun p as l => p = place → l.Settled settings.unit service as := by
    constructor
    case connect =>
      rintro p address' service' hserver' rfl
      rw [hserver] at hserver'
      cases hserver'
      exact Link.Settled.connect hconforms
    case exchange =>
      intro p as l a hl hp
      exact ((hl hp).exchange hconforms a).2
    case afterTurns =>
      intro p as l turns hl hp
      exact (hl hp).afterTurns turns
  have hlink := connections_induction hinvariant steps c hc hplace
  rwa [hplace] at hlink

/-- A conforming server has taken the request of every read over its connection. -/
theorem takenAt_of_conforming (hserver : network.servers[place]? = some ⟨address, .accept service⟩)
    (hconforms : service.Conforms settings.unit conduct) (steps : List Step) :
    ((start settings network).after steps).takenAt place =
      wire settings.unit (addressesAt place ((start settings network).readings steps)) := by
  have hinv := inv_after settings network steps
  by_cases hmem : place ∈ ((start settings network).after steps).connections.map Holding.place
  · obtain ⟨c, hc, hplace⟩ := List.mem_map.1 hmem
    rw [← (settled_after hserver hconforms steps hc hplace).requests, ← hplace]
    exact hinv.takenAt_of_mem hc
  · rw [hinv.takenAt_of_notMem hmem, hinv.unread place hmem]
    rfl

/-- One read over the connection to a conforming server. -/
theorem report_of_conforming (hserver : network.servers[place]? = some ⟨address, .accept service⟩)
    (hconforms : service.Conforms settings.unit conduct) {steps : List Step}
    (hheld : ((start settings network).after steps).held.map Holding.place = some place)
    (a : UInt16) :
    ((start settings network).after steps).report (.read a) =
      ⟨((conduct (addressesAt place ((start settings network).readings steps)).length).result
        settings.timeout).map .coil, true, [.reading a]⟩ := by
  obtain ⟨c, hc, hplace⟩ := Option.map_eq_some_iff.1 hheld
  have hmem : c ∈ ((start settings network).after steps).connections := by
    refine List.mem_append_left _ ?_
    rw [hc]
    exact List.mem_singleton_self c
  obtain ⟨hanswer, -⟩ := (settled_after hserver hconforms steps hmem hplace).exchange hconforms a
  simp only [report, perform, read_of_held a hc, settings_after, hanswer]
  rfl

/-- A sequence of reads over the connection to a conforming server, after any number of reads over
it. -/
theorem reports_of_conforming (hserver : network.servers[place]? = some ⟨address, .accept service⟩)
    (hconforms : service.Conforms settings.unit conduct) (as : List UInt16) {steps : List Step}
    (hheld : ((start settings network).after steps).held.map Holding.place = some place) :
    ((start settings network).after steps).reports (as.map .read) =
      as.mapIdx fun k a =>
        ⟨((conduct
          ((addressesAt place ((start settings network).readings steps)).length + k)).result
            settings.timeout).map .coil, true, [.reading a]⟩ := by
  induction as generalizing steps with
  | nil => rfl
  | cons a as ih =>
    have hafter : (((start settings network).after steps).perform (.read a)).session =
        (start settings network).after (steps ++ [.read a]) := (after_append _ steps [.read a]).symm
    have hnext : ((start settings network).after (steps ++ [.read a])).held.map Holding.place =
        some place := by
      have hkept := place_perform ((start settings network).after steps)
        (show Step.read a ≠ .connect from nofun)
      rw [← hafter, hkept, hheld]
    have hcount : (addressesAt place ((start settings network).readings
        (steps ++ [.read a]))).length =
        (addressesAt place ((start settings network).readings steps)).length + 1 := by
      have hlast := addressesAt_reads hheld [a]
      rw [List.map_cons, List.map_nil] at hlast
      rw [readings_append, addressesAt_append, hlast, List.length_append]
      rfl
    have hrest := ih hnext
    rw [hcount] at hrest
    rw [List.map_cons, reports_cons, report_of_conforming hserver hconforms hheld, hafter, hrest,
      List.mapIdx_cons]
    simp only [Nat.add_zero, Nat.add_assoc, Nat.add_comm 1]

end Conforming

/-- Reads over the connection to a server that keeps to the protocol are exact. Wherever a session
holds the connection to such a server, after any steps and any number of reads over it, each further
read comes to what the server does about the request of its number: the timeout if it is silent, the
lowest bit of the byte that it sends, or the exception; and the connection is held on. The server
has taken the requests of all reads over its connection, in order. -/
theorem reads_of_conforming (settings : Settings) (network : Network) (place : Nat)
    (address : SocketAddress) (service : Service) (conduct : Nat → Conduct)
    (hserver : network.servers[place]? = some ⟨address, .accept service⟩)
    (hconforms : service.Conforms settings.unit conduct) (steps : List Step) :
    let s := (start settings network).after steps
    let read := addressesAt place ((start settings network).readings steps)
    s.takenAt place = wire settings.unit read ∧
      (s.held.map Holding.place = some place → ∀ as : List UInt16,
        s.reports (as.map .read) =
            as.mapIdx (fun k a =>
              ⟨((conduct (read.length + k)).result settings.timeout).map .coil, true,
                [.reading a]⟩) ∧
          (s.after (as.map .read)).takenAt place = wire settings.unit (read ++ as)) := by
  intro s read
  refine ⟨takenAt_of_conforming hserver hconforms steps, fun hheld as => ⟨?_, ?_⟩⟩
  · exact reports_of_conforming hserver hconforms as hheld
  · have htaken := takenAt_of_conforming hserver hconforms (steps ++ as.map .read)
    rw [after_append, readings_append, addressesAt_append, addressesAt_reads hheld] at htaken
    exact htaken

/-- Four reads from a server that sends a byte for the first one, is silent about the second one,
refuses the third one and has no reply to the fourth one. -/
theorem reads_of_conforming_mixed :
    let settings : Settings := { host := "10.0.0.1" }
    let service : Service :=
      { replies := [.send [[0, 0, 0, 0, 0, 4, 1, 1, 1, 3]] none, .send [] none,
          .send [[0, 2, 0, 0, 0, 3, 1, 0x81, 2]] none] }
    let network : Network := { servers := [⟨.v4 ⟨10, 0, 0, 1⟩ 502, .accept service⟩] }
    let conduct : Nat → Conduct := fun n => [.value 3, .silent, .refusal ⟨2⟩].getD n .silent
    let s := (start settings network).after [.connect]
    network.servers[0]? = some ⟨.v4 ⟨10, 0, 0, 1⟩ 502, .accept service⟩ ∧
      service.Conforms settings.unit conduct ∧
      s.reports [.read 7, .read 8, .read 9, .read 10] =
        [⟨.ok (.coil true), true, [.reading 7]⟩, ⟨.error (.timedOut 3000), true, [.reading 8]⟩,
          ⟨.error (.exception ⟨2⟩), true, [.reading 9]⟩,
          ⟨.error (.timedOut 3000), true, [.reading 10]⟩] ∧
      (s.after [.read 7, .read 8, .read 9, .read 10]).takenAt 0 = wire 1 [7, 8, 9, 10] := by
  intro settings service network conduct s
  have hservice : service = .ofConducts 1 [.value 3, .silent, .refusal ⟨2⟩] := by decide
  have hconforms : service.Conforms settings.unit conduct := by
    rw [hservice]
    exact Service.conforms_ofConducts 1 _
  obtain ⟨-, hreads⟩ := reads_of_conforming settings network 0 (.v4 ⟨10, 0, 0, 1⟩ 502) service
    conduct rfl hconforms [.connect]
  obtain ⟨hreports, htaken⟩ := hreads (by decide) [7, 8, 9, 10]
  exact ⟨rfl, hconforms, hreports, htaken⟩

end Session

end CoilProbe
