import CoilProbe.Proofs.Records
import CoilProbe.Proofs.Views

/-!
# New connections

A session that makes a connection starts over, whatever it went through before. Until it makes the
next one, its steps and the record of the server are those of a session that has done nothing but
get this connection; and from then on the servers of the connections that it held before get no
request more. `connect_starts_afresh` is the main statement.
-/

namespace CoilProbe

/-- The address that a step reads. -/
def Step.address? : Step → Option UInt16
  | .read a => some a
  | .connect | .isOpen | .settings => none

/-- What is told of those of some steps that are not for making a connection. -/
def besides (steps : List Step) (reports : List StepReport) : List StepReport :=
  ((steps.zip reports).filter fun e => e.1 ≠ .connect).map Prod.snd

namespace Session

/-- Whether a session makes no connection in some steps: whenever it tries, it fails. -/
def Keeps (s : Session) (steps : List Step) : Prop :=
  ∀ pre, pre ++ [.connect] <+: steps → ∃ f, (s.after pre).connect.result = .error f

/-- A session after turns of the servers that it did not wait for. -/
def afterTurns (turns : Nat) (s : Session) : Session :=
  { s with
    held := s.held.map (·.afterTurns turns)
    past := s.past.map (·.afterTurns turns) }

theorem afterTurns_zero (s : Session) : s.afterTurns 0 = s := by
  have hheld : s.held.map (·.afterTurns 0) = s.held := congrFun Option.map_id _
  have hpast : s.past.map (·.afterTurns 0) = s.past := List.map_id _
  rw [afterTurns, hheld, hpast]

variable {s t : Session} {servers : List Server} {rs : List (Option (Nat × UInt16))} {place : Nat}

/-! ## As long as a connection is kept -/

theorem keeps_of_notMem {steps : List Step} (h : Step.connect ∉ steps) : s.Keeps steps := by
  intro pre hpre
  exact absurd (hpre.subset (List.mem_append_right pre (List.mem_singleton_self _))) h

theorem keeps_cons_iff {step : Step} {steps : List Step} :
    s.Keeps (step :: steps) ↔
      (step = .connect → ∃ f, s.connect.result = .error f) ∧
        (s.perform step).session.Keeps steps := by
  constructor
  · intro h
    constructor
    · rintro rfl
      exact h [] ⟨steps, rfl⟩
    · intro pre hpre
      exact h (step :: pre) (List.cons_prefix_cons.2 ⟨rfl, hpre⟩)
  · rintro ⟨hfirst, hlater⟩ pre hpre
    cases pre with
    | nil => exact hfirst (List.cons_prefix_cons.1 hpre).1.symm
    | cons step' pre =>
      obtain ⟨rfl, hrest⟩ := List.cons_prefix_cons.1 hpre
      exact hlater pre hrest

/-- As long as no connection is made, the steps that are not for making one tell the same as in a
session that looks the same and does not try. -/
theorem Keeps.agree {post : List Step} (hkeeps : s.Keeps post) (h : s.view = t.view) :
    besides post (s.reports post) = t.reports (post.filter (· ≠ .connect)) ∧
      (s.after post).view = (t.after (post.filter (· ≠ .connect))).view := by
  induction post generalizing s t with
  | nil => exact ⟨rfl, h⟩
  | cons step post ih =>
    obtain ⟨hfails, hlater⟩ := keeps_cons_iff.1 hkeeps
    by_cases hstep : step = .connect
    · subst hstep
      obtain ⟨f, hf⟩ := hfails rfl
      have hview : (s.perform .connect).session.view = t.view := (of_refused hf).1.trans h
      obtain ⟨hreports, hafter⟩ := ih hlater hview
      have hsame : besides (.connect :: post) (s.reports (.connect :: post)) =
          besides post ((s.perform .connect).session.reports post) := by
        simp [besides, reports_cons]
      have hdrop : (Step.connect :: post).filter (· ≠ .connect) = post.filter (· ≠ .connect) := by
        simp
      rw [hsame, hdrop]
      exact ⟨hreports, hafter⟩
    · obtain ⟨hreport, -, hview⟩ := agree_of_view_step h hstep
      obtain ⟨hreports, hafter⟩ := ih hlater hview
      have hsame : besides (step :: post) (s.reports (step :: post)) =
          s.report step :: besides post ((s.perform step).session.reports post) := by
        simp [besides, reports_cons, hstep]
      have hkeep : (step :: post).filter (· ≠ .connect) = step :: post.filter (· ≠ .connect) := by
        simp [hstep]
      rw [hsame, hkeep, reports_cons, hreport, hreports]
      exact ⟨rfl, hafter⟩

/-- As long as no connection is made, all reads go over the one that is held. -/
theorem Keeps.addressesAt {post : List Step} (hkeeps : s.Keeps post)
    (hplace : s.held.map Holding.place = some place) :
    addressesAt place (s.readings post) = post.filterMap Step.address? ∧
      (s.after post).held.map Holding.place = some place := by
  induction post generalizing s with
  | nil => exact ⟨rfl, hplace⟩
  | cons step post ih =>
    obtain ⟨hfails, hlater⟩ := keeps_cons_iff.1 hkeeps
    have hkept : (s.perform step).session.held.map Holding.place = some place := by
      by_cases hstep : step = .connect
      · subst hstep
        obtain ⟨f, hf⟩ := hfails rfl
        have hheld := (view_eq_iff.1 (of_refused hf).1).2
        exact (congrArg (Option.map Holding.place) hheld).trans hplace
      · rw [s.place_perform hstep, hplace]
    obtain ⟨haddresses, hafter⟩ := ih hlater hkept
    have hfirst : CoilProbe.addressesAt place [s.reading? step] = step.address?.toList := by
      cases step with
      | connect => rfl
      | isOpen => rfl
      | settings => rfl
      | read a =>
        obtain ⟨c, hheld, hc⟩ := Option.map_eq_some_iff.1 hplace
        rw [reading?, hheld, ← hc]
        exact addressesAt_self c.place a
    refine ⟨?_, hafter⟩
    rw [readings, ← List.singleton_append, addressesAt_append, haddresses, hfirst,
      List.filterMap_cons]
    cases step.address? <;> rfl

/-- As long as no connection is made, the one that is held in the end is that of a session that
looks the same and does not try. -/
theorem Keeps.held {post : List Step} (hkeeps : s.Keeps post) (h : s.view = t.view)
    (hplace : s.held.map Holding.place = some place) :
    ∃ c : Holding, c.place = place ∧ (s.after post).held = some c ∧
      (t.after (post.filter (· ≠ .connect))).held = some c := by
  obtain ⟨-, hafter⟩ := hkeeps.agree h
  obtain ⟨-, hlast⟩ := hkeeps.addressesAt hplace
  obtain ⟨c, hc, hcplace⟩ := Option.map_eq_some_iff.1 hlast
  exact ⟨c, hcplace, hc, (view_eq_iff.1 hafter).2.symm.trans hc⟩

/-! ## The new connection -/

/-- The record of the server of the connection that is held. -/
theorem Inv.takenAt_held (h : Inv servers rs s) {c : Holding} (hc : s.held = some c) :
    s.takenAt c.place = c.link.requests := by
  refine h.takenAt_of_mem (List.mem_append_left _ ?_)
  rw [hc]
  exact List.mem_singleton_self c

/-- The record of the only server that a session has been connected to. -/
theorem takenAt_of_only {c : Holding} (hheld : s.held = some c) (hpast : s.past = [])
    (hslot : ∃ slot, s.roster[c.place]? = some slot) : s.takenAt c.place = c.link.requests := by
  have hconnections : s.connections = [c] := by
    rw [connections_of_held hheld, hpast]
  refine takenAt_of_mem ?_ hslot ?_
  · rw [hconnections]
    exact List.nodup_singleton _
  · rw [hconnections]
    exact List.mem_singleton_self c

section Session

variable {settings : Settings} {network : Network} {pre : List Step} {c : Holding}

/-- A session that has only got a new connection and kept it has this record of its server, after
turns that it did not wait for. -/
theorem takenAt_hold {service : Service} {others : List Step} (n : Nat)
    (hserver : ∃ server, network.servers[c.place]? = some server)
    (hothers : Step.connect ∉ others)
    (hc : (((start settings network).hold place service).after others).held = some c) :
    ((((start settings network).hold place service).after others).afterTurns n).takenAt c.place =
      (c.afterTurns n).link.requests := by
  have hslot : ∃ slot, (((start settings network).hold place service).after others).roster[c.place]?
      = some slot := by
    rw [roster_after _ hothers]
    obtain ⟨server, hserver⟩ := hserver
    refine ⟨{ server := server }, ?_⟩
    simp only [hold, release, start, Roster.ofServers, List.getElem?_map, hserver, Option.map_some]
  have hpast : (((start settings network).hold place service).after others).past = [] := by
    rw [past_after _ hothers]
    rfl
  refine takenAt_of_only (c := c.afterTurns n) ?_ ?_ hslot
  · rw [afterTurns, hc]
    rfl
  · rw [afterTurns, hpast]
    rfl

/-- When another connection is made, the record of the server of the one that was held is what comes
of the turns that the session waits for later. -/
theorem takenAt_of_reconnected (hok : ((start settings network).after pre).connect.result = .ok ())
    (hc : ((start settings network).after pre).held = some c) (later : List Step) :
    ((start settings network).after (pre ++ .connect :: later)).takenAt c.place =
      (c.afterTurns
        (((start settings network).after pre).connect.session.turns later)).link.requests := by
  obtain ⟨-, -, -, -, -, -, hpast⟩ := (inv_after settings network pre).of_connected hok
  have hmem : c ∈ ((start settings network).after pre).connect.session.past := by
    rw [hpast]
    refine List.mem_append_left _ ?_
    rw [hc]
    exact List.mem_singleton_self c
  have hlate := mem_past_after hmem later
  have hinv := inv_after settings network (pre ++ .connect :: later)
  have hafter : (start settings network).after (pre ++ .connect :: later) =
      ((start settings network).after pre).connect.session.after later := after_append _ _ _
  rw [hafter] at hinv ⊢
  exact hinv.takenAt_of_mem (List.mem_append_right _ hlate)

/-- Nothing is read over connections that are held no more. -/
theorem addressesAt_past (hc : c ∈ ((start settings network).after pre).past) (later : List Step) :
    addressesAt c.place (((start settings network).after pre).readings later) = [] := by
  refine addressesAt_readings_of_not_held fun mid _ hheld => ?_
  obtain ⟨d, hd, hplace⟩ := Option.map_eq_some_iff.1 hheld
  have hpast := mem_past_after hc mid
  have hinv := inv_after settings network (pre ++ mid)
  rw [after_append] at hinv
  exact hinv.place_ne hd hpast hplace

theorem readings_connect (pre later : List Step) :
    (start settings network).readings (pre ++ .connect :: later) =
      (start settings network).readings pre ++ [none] ++
        ((start settings network).after pre).connect.session.readings later := by
  rw [readings_append, List.append_assoc]
  rfl

/-- Once another connection is made, the server of an earlier one takes no request but those for the
reads made before. -/
theorem takenAt_earlier (hok : ((start settings network).after pre).connect.result = .ok ())
    (hc : c ∈ ((start settings network).after pre).connections) (later : List Step) :
    ((start settings network).after (pre ++ .connect :: later)).takenAt c.place <+:
      wire settings.unit (addressesAt c.place ((start settings network).readings pre)) := by
  obtain ⟨-, -, -, -, -, -, hpast⟩ := (inv_after settings network pre).of_connected hok
  have hpastC : c ∈ ((start settings network).after (pre ++ [.connect])).past := by
    rw [after_append]
    exact hpast ▸ hc
  have hnone : addressesAt c.place
      (((start settings network).after pre).connect.session.readings later) = [] := by
    have hlater := addressesAt_past hpastC later
    rw [after_append] at hlater
    exact hlater
  have htaken := (inv_after settings network (pre ++ .connect :: later)).takenAt_begins c.place
  rw [settings_after, readings_connect, addressesAt_append, addressesAt_append, addressesAt_none,
    hnone, List.append_nil, List.append_nil] at htaken
  exact htaken

/-- As long as a new connection is kept, its server takes requests for the reads after it was made,
numbered from 0. -/
theorem takenAt_kept {post : List Step}
    (hnew : place ∉ ((start settings network).after pre).connections.map Holding.place)
    (hplace : ((start settings network).after pre).connect.session.held.map Holding.place =
      some place)
    (hkeeps : ((start settings network).after pre).connect.session.Keeps post) :
    ((start settings network).after (pre ++ .connect :: post)).takenAt place <+:
      wire settings.unit (post.filterMap Step.address?) := by
  obtain ⟨haddresses, -⟩ := hkeeps.addressesAt hplace
  have hbefore := (inv_after settings network pre).unread place hnew
  have htaken := (inv_after settings network (pre ++ .connect :: post)).takenAt_begins place
  rw [settings_after, readings_connect, addressesAt_append, addressesAt_append, addressesAt_none,
    hbefore, haddresses, List.nil_append, List.nil_append] at htaken
  exact htaken

end Session

/-- Making a connection starts afresh. Let a session, after any steps, make a connection to the
server at a place. This server had no connection before. As long as no other connection is made, all
steps but the attempts at one tell the same as in a session that has only just got this connection
and has done nothing before, and so does the record of the server: it has taken requests for the
reads after the reopening, numbered from 0. When other connections follow, the record is what it
becomes in that session after as many turns more. The servers of all earlier connections take no
request but those for reads before the reopening. -/
theorem connect_starts_afresh (settings : Settings) (network : Network) (pre : List Step)
    (hok : ((start settings network).after pre).connect.result = .ok ()) :
    let s := (start settings network).after pre
    let renewed := s.connect.session
    ∃ place address service,
      network.servers[place]? = some ⟨address, .accept service⟩ ∧
      place ∉ s.connections.map Holding.place ∧
      renewed.held = some ⟨place, .connect settings.unit service⟩ ∧
      (∀ post, renewed.Keeps post →
        let fresh := (start settings network).hold place service
        let others := post.filter (· ≠ .connect)
        besides post (renewed.reports post) = fresh.reports others ∧
        (renewed.after post).takenAt place = (fresh.after others).takenAt place ∧
        (fresh.after others).takenAt place <+: wire settings.unit (post.filterMap Step.address?) ∧
        ∀ rest, (renewed.after post).connect.result = .ok () →
          (renewed.after (post ++ .connect :: rest)).takenAt place =
            ((fresh.after others).afterTurns
              ((renewed.after post).connect.session.turns rest)).takenAt place) ∧
      ∀ c ∈ s.connections, ∀ later,
        (renewed.after later).takenAt c.place <+:
          wire settings.unit (addressesAt c.place ((start settings network).readings pre)) := by
  intro s renewed
  have hsettings : s.settings = settings := settings_after _ pre
  have hwhole : ∀ steps, renewed.after steps =
      (start settings network).after (pre ++ .connect :: steps) :=
    fun steps => (after_append _ pre (.connect :: steps)).symm
  obtain ⟨place, address, service, hserver, hnew, hheld, -⟩ :=
    (inv_after settings network pre).of_connected hok
  rw [hsettings] at hheld
  refine ⟨place, address, service, hserver, hnew, hheld, ?_, ?_⟩
  · intro post hkeeps fresh others
    have hview : renewed.view = fresh.view := by
      rw [view, hheld, settings_connect, hsettings]
      rfl
    have hplace : renewed.held.map Holding.place = some place := by
      rw [hheld]
      rfl
    obtain ⟨hreports, -⟩ := hkeeps.agree hview
    obtain ⟨c, rfl, hc, hcFresh⟩ := hkeeps.held hview hplace
    have htaken : (renewed.after post).takenAt c.place = c.link.requests := by
      have hinv := inv_after settings network (pre ++ .connect :: post)
      rw [hwhole] at hc ⊢
      exact hinv.takenAt_held hc
    have htakenFresh : ∀ n, ((fresh.after others).afterTurns n).takenAt c.place =
        (c.afterTurns n).link.requests :=
      fun n => takenAt_hold n ⟨_, hserver⟩ (by simp [others]) hcFresh
    have hsame : (renewed.after post).takenAt c.place = (fresh.after others).takenAt c.place := by
      rw [htaken]
      have hnow := htakenFresh 0
      rw [afterTurns_zero] at hnow
      exact hnow.symm
    refine ⟨hreports, hsame, ?_, ?_⟩
    · rw [← hsame, hwhole]
      exact takenAt_kept hnew hplace hkeeps
    · intro rest hagain
      rw [htakenFresh, hwhole]
      rw [hwhole] at hagain hc ⊢
      have hlate := takenAt_of_reconnected hagain hc rest
      rw [List.append_assoc] at hlate
      exact hlate
  · intro c hc later
    rw [hwhole]
    exact takenAt_earlier hok hc later

/-- A session that reconnects in the middle of a reply, with a request on its way to the old server
that this one has not taken: over the new connection the reads start again from number 0. -/
theorem connect_starts_afresh_mid_reply :
    let settings : Settings := { host := "10.0.0.1" }
    let old : Service :=
      { replies := [.send [[0, 0, 0, 0, 0, 4, 1, 1, 1], [1, 7], [0, 0, 0, 0, 0, 3, 1, 0x81, 2], [9]]
          (some .close)] }
    let new : Service := { replies := [.send [[0, 0, 0, 0, 0, 4, 1, 1, 1, 1]] none] }
    let network : Network :=
      { servers := [⟨.v4 ⟨10, 0, 0, 1⟩ 502, .accept old⟩, ⟨.v4 ⟨10, 0, 0, 1⟩ 502, .accept new⟩] }
    let s := (start settings network).after [.connect, .read 1, .read 2]
    let post : List Step := [.read 3, .connect, .isOpen, .read 4]
    s.connect.result = .ok () ∧ s.connect.session.Keeps post ∧
      besides post (s.connect.session.reports post) =
        ((start settings network).hold 1 new).reports [.read 3, .isOpen, .read 4] ∧
      (s.connect.session.after post).takenAt 1 =
        (((start settings network).hold 1 new).after [.read 3, .isOpen, .read 4]).takenAt 1 := by
  intro settings old new network s post
  have hok : s.connect.result = .ok () := by decide +kernel
  have hkeeps : s.connect.session.Keeps post := by
    have hrefused : (s.connect.session.after [.read 3]).connect.result =
        .error (.connect (.v4 ⟨10, 0, 0, 1⟩ 502) .connectionRefused) := by
      decide +kernel
    have hlast : (s.connect.session.after [.read 3, .connect]).Keeps [.isOpen, .read 4] :=
      keeps_of_notMem (by decide)
    exact keeps_cons_iff.2 ⟨nofun, keeps_cons_iff.2 ⟨fun _ => ⟨_, hrefused⟩, hlast⟩⟩
  obtain ⟨place, address, service, hserver, -, hheld, hkept, -⟩ :=
    connect_starts_afresh settings network [.connect, .read 1, .read 2] hok
  have hnow : s.connect.session.held = some ⟨1, .connect 1 new⟩ := by decide +kernel
  obtain rfl : place = 1 := by
    have := congrArg (Option.map Holding.place) (hheld.symm.trans hnow)
    simpa using this
  obtain ⟨-, rfl⟩ : address = .v4 ⟨10, 0, 0, 1⟩ 502 ∧ service = new := by
    simpa [network, eq_comm] using hserver
  obtain ⟨hreports, htaken, -⟩ := hkept post hkeeps
  exact ⟨hok, hkeeps, hreports, htaken⟩

end Session

end CoilProbe
