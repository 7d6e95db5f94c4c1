import CoilProbe.Proofs.Frames
import CoilProbe.Proofs.Reads

/-!
# What an answer stands for

`read_sound` says what a session has been sent when a read of it ends with a coil, with an empty
response or with an exception: the bytes taken in this read begin with a frame that answers this
read and no other. Whatever else is sent first makes the read a transport failure. The bytes are
those of the server: whatever reads take, one after the other, is what stands in its script.
-/

namespace CoilProbe

theorem coilsOfByte_eq (d : UInt8) : ∃ more, coilsOfByte d = decide (d.toNat % 2 = 1) :: more := by
  refine ⟨((List.range 8).map d.toNat.testBit).tail, ?_⟩
  rw [coilsOfByte, ← Nat.testBit_zero]
  rfl

/-! ## Whose bytes they are -/

/-- The bytes that a server sends on a connection if all its replies are asked for. -/
def Service.script (s : Service) : Bytes := s.first.flatten ++ s.replies.flatMap Reaction.bytes

theorem Peer.prospect_accept (s : Service) : (Peer.accept s).prospect <+: s.script := by
  by_cases hflow : (Peer.accept s).flow = .both
  · rw [prospect_of_both hflow]
    exact List.prefix_rfl
  · rw [prospect_of_ne hflow]
    exact List.prefix_append _ _

namespace Link

/-- No bytes are made in an exchange. -/
theorem exchange_prospect (a : UInt16) (l : Link) :
    (l.exchange a).taken ++ (l.exchange a).link.peer.prospect <+: l.peer.prospect := by
  rcases l.exchange_cases a with ⟨hex, -⟩ | ⟨peer, hex, rfl, -⟩ | ⟨peer, hex, hpeer, -⟩
  · rw [hex]
    exact List.prefix_rfl
  · rw [hex]
    exact List.prefix_rfl
  · have hsame : peer.prospect = l.peer.prospect := by rw [hpeer]; rfl
    rw [hex, ← hsame]
    exact receive_prospect

/-- A connection to the server at a place, which accepts. The bytes that it may still send stand in
its script after some bytes that have been taken. -/
def Scripted (servers : List Server) (place : Nat) (l : Link) : Prop :=
  ∃ address service taken, servers[place]? = some ⟨address, .accept service⟩ ∧
    taken ++ l.peer.prospect <+: service.script

theorem invariant_scripted (unit : UInt8) (servers : List Server) :
    Invariant unit servers fun place _ l => l.Scripted servers place where
  connect place address service hserver :=
    ⟨address, service, [], hserver, Peer.prospect_accept service⟩
  exchange := by
    rintro place - l a ⟨address, service, taken, hserver, hscript⟩
    refine ⟨address, service, taken ++ (l.exchange a).taken, hserver, ?_⟩
    rw [List.append_assoc]
    exact ((List.prefix_append_right_inj taken).2 (l.exchange_prospect a)).trans hscript
  afterTurns := by
    rintro place - l turns ⟨address, service, taken, hserver, hscript⟩
    exact ⟨address, service, taken, hserver,
      ((List.prefix_append_right_inj taken).2 (l.peer.prospect_afterTurns turns)).trans hscript⟩

/-- The bytes that can be read in an exchange are those that had arrived, and then those that come
next in the script of the server. -/
theorem Scripted.exchange {servers : List Server} {place : Nat} {l : Link}
    (h : l.Scripted servers place) (a : UInt16) :
    ∃ address service before sent, servers[place]? = some ⟨address, .accept service⟩ ∧
      (l.exchange a).taken ++ (l.exchange a).link.peer.arrived = l.peer.arrived ++ sent ∧
      before ++ l.peer.arrived ++ sent <+: service.script := by
  obtain ⟨address, service, before, hserver, hscript⟩ := h
  obtain ⟨sent, hsent⟩ := l.arrived_prefix a
  refine ⟨address, service, before, sent, hserver, hsent.symm, ?_⟩
  have hnow : (l.exchange a).taken ++ (l.exchange a).link.peer.arrived <+: l.peer.prospect :=
    ((List.prefix_append_right_inj _).2 (List.prefix_append _ _)).trans (l.exchange_prospect a)
  rw [List.append_assoc, hsent]
  exact ((List.prefix_append_right_inj before).2 hnow).trans hscript

end Link

/-! ## What an answer is made of -/

namespace Session

variable {timeout : UInt64} {ans : Answer}

theorem coilOf_ok {b : Bool} (h : coilOf timeout ans = .ok b) :
    ∃ values, ans = .coils (b :: values) := by
  unfold coilOf at h
  split at h
  · cases h
    exact ⟨_, rfl⟩
  all_goals cases h

theorem coilOf_emptyResponse (h : coilOf timeout ans = .error .emptyResponse) :
    ans = .coils [] := by
  unfold coilOf at h
  split at h <;> first | rfl | cases h

theorem coilOf_exception {c : ExceptionCode} (h : coilOf timeout ans = .error (.exception c)) :
    ans = .exception c := by
  unfold coilOf at h
  split at h <;> cases h
  rfl

/-- Each read of a session is answered by a frame sent for it. If the read is number `i` on its
connection, and ends with a coil, an empty response or an exception, the bytes taken in it begin
with a frame of transaction `i` and of the unit of the settings that says just this. If the next
frame of the stream is of another transaction or unit, the read is a transport failure. The bytes
taken, and those that are left, are those that had arrived before and then those that come next in
the script of the server. -/
theorem read_sound (settings : Settings) (network : Network) (steps : List Step) (a : UInt16) :
    let s := (start settings network).after steps
    match s.held with
    | none => (s.read a).result = .error .notConnected
    | some h =>
      let e := h.link.exchange a
      let i := (addressesAt h.place ((start settings network).readings steps)).length
      let id := UInt16.ofNat (i % 65536)
      (∃ address service before sent,
        network.servers[h.place]? = some ⟨address, .accept service⟩ ∧
          e.taken ++ e.link.peer.arrived = h.link.peer.arrived ++ sent ∧
          before ++ h.link.peer.arrived ++ sent <+: service.script) ∧
      (∀ b, (s.read a).result = .ok b → ∃ (count d : UInt8) (ds : Bytes),
        StartsWithFrame e.taken id 0 settings.unit (1 :: count :: d :: ds) ∧
          count.toNat = ds.length + 1 ∧ b = decide (d.toNat % 2 = 1)) ∧
      ((s.read a).result = .error .emptyResponse →
        StartsWithFrame e.taken id 0 settings.unit [1, 0]) ∧
      (∀ c, (s.read a).result = .error (.exception c) →
        ∃ more, StartsWithFrame e.taken id 0 settings.unit (0x81 :: c.number :: more)) ∧
      ∀ t p u body, StartsWithFrame (e.taken ++ e.link.peer.arrived) t p u body →
        t ≠ id ∨ u ≠ settings.unit → ∃ fault, (s.read a).result = .error (.transport fault) := by
  intro s
  have hinv := inv_after settings network steps
  cases hheld : s.held with
  | none => exact congrArg Performed.result (read_of_not_held a hheld)
  | some h =>
    have hmem : h ∈ s.connections := by
      rw [connections_of_held hheld]
      exact List.mem_cons_self
    have hscripted : h.link.Scripted network.servers h.place :=
      connections_induction (Link.invariant_scripted settings.unit network.servers) steps h hmem
    have hfollows : h.link.Follows settings.unit
        (addressesAt h.place ((start settings network).readings steps)) := by
      have hlink := hinv.follows h hmem
      rwa [settings_after] at hlink
    simp only [read_of_held a hheld, ofNat_mod, ← hfollows.next_eq, ← hfollows.unit_eq]
    refine ⟨hscripted.exchange a, fun b hb => ?_, fun he => ?_, fun c hc => ?_, ?_⟩
    · obtain ⟨values, hcoils⟩ := coilOf_ok hb
      obtain ⟨count, packed, hstart, hlen, hvalues⟩ := Link.exchange_coils hcoils
      cases packed with
      | nil => cases hvalues
      | cons d ds =>
        obtain ⟨more, hmore⟩ := coilsOfByte_eq d
        rw [List.flatMap_cons, hmore] at hvalues
        injection hvalues with hb' _
        exact ⟨count, d, ds, hstart, hlen.symm, hb'⟩
    · obtain ⟨count, packed, hstart, hlen, hvalues⟩ :=
        Link.exchange_coils (coilOf_emptyResponse he)
      cases packed with
      | nil =>
        have hcount : count = 0 := UInt8.toNat.inj hlen.symm
        rw [hcount] at hstart
        exact hstart
      | cons d ds =>
        obtain ⟨more, hmore⟩ := coilsOfByte_eq d
        rw [List.flatMap_cons, hmore] at hvalues
        cases hvalues
    · exact Link.exchange_exception (coilOf_exception hc)
    · intro t p u body hstart hne
      obtain ⟨fault, hfault⟩ := Link.exchange_of_mismatch hstart hne
      exact ⟨fault, by rw [hfault]; rfl⟩

/-- A reply that comes only after its read has been given up. The next read takes these bytes of the
server and is a transport failure; the read after it gets its own reply in time. -/
theorem read_sound_late :
    let settings : Settings := { host := "10.0.0.1" }
    let late : Bytes := [0, 0, 0, 0, 0, 4, 1, 1, 1, 1]
    let prompt : Bytes := [0, 2, 0, 0, 0, 4, 1, 1, 1, 1]
    let service : Service :=
      { replies := [.send [[], late] none, .send [] none, .send [prompt] none] }
    let network : Network := { servers := [⟨.v4 ⟨10, 0, 0, 1⟩ 502, .accept service⟩] }
    let s := (start settings network).after [.connect, .read 1]
    let l := ((Link.connect 1 service).exchange 1).link
    s.held = some ⟨0, l⟩ ∧ (l.exchange 2).taken = late ∧
      (∃ before, before ++ late <+: service.script) ∧
      (∃ fault, (s.read 2).result = .error (.transport fault)) ∧
      ((s.read 2).session.read 3).result = .ok true ∧
      ∃ count d ds, StartsWithFrame ((l.exchange 2).link.exchange 3).taken 2 0 1
        (1 :: count :: d :: ds) := by
  intro settings late prompt service network s l
  have hheld : s.held = some ⟨0, l⟩ := by decide +kernel
  have htaken : (l.exchange 2).taken = late := by decide +kernel
  have hlateFrame : StartsWithFrame late 0 0 1 [1, 1, 1] := ⟨4, [], by decide, by decide⟩
  have hok : ((s.read 2).session.read 3).result = .ok true := by decide +kernel
  have hsecond := read_sound settings network [.connect, .read 1] 2
  simp only [show ((start settings network).after [.connect, .read 1]).held = some ⟨0, l⟩
    from hheld] at hsecond
  obtain ⟨⟨address, service', before, sent, hserver, hsent, hscript⟩, -, -, -, hfault⟩ := hsecond
  obtain ⟨-, rfl⟩ : address = .v4 ⟨10, 0, 0, 1⟩ 502 ∧ service' = service := by
    simpa [network, eq_comm] using hserver
  have hlate : before ++ late <+: service.script := by
    rw [List.append_assoc, ← hsent, htaken, ← List.append_assoc] at hscript
    exact (List.prefix_append _ _).trans hscript
  have hthird := read_sound settings network [.connect, .read 1, .read 2] 3
  simp only [show ((start settings network).after [.connect, .read 1, .read 2]).held =
    some ⟨0, (l.exchange 2).link⟩ by decide +kernel] at hthird
  obtain ⟨-, hcoil, -⟩ := hthird
  obtain ⟨count, d, ds, hstart, -, -⟩ := hcoil true hok
  have hnumber : (addressesAt 0 ((start settings network).readings
      [.connect, .read 1, .read 2])).length = 2 := by decide +kernel
  rw [hnumber] at hstart
  refine ⟨hheld, htaken, ⟨before, hlate⟩, hfault 0 0 1 [1, 1, 1] ?_ (.inl (by decide +kernel)), hok,
    count, d, ds, hstart⟩
  rw [htaken]
  exact hlateFrame.append _

end Session

end CoilProbe
