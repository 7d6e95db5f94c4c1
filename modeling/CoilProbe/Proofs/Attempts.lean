import CoilProbe.Session
import Mathlib.Data.Nat.Find
import Mathlib.Tactic.Common

/-!
# Which server gets which attempt

Of the servers at one address, the first attempt there goes to the first one, the second attempt to
the second one, and so on. `Roster.trial` says from this alone what comes of attempt number `i` at a
list of addresses. `search_of_accepted` and `search_of_refused` say that a search makes these
attempts in order until one is accepted, and `waiting_search` that it uses up one server for each
attempt and no more.
-/

namespace CoilProbe

/-- Whether an attempt makes a connection. -/
def Attempt.accepts : Attempt → Bool
  | .accepted _ _ => true
  | .failed _ | .hung => false

/-- What the journal says of an attempt at an address. -/
def Attempt.events (s : Settings) (a : SocketAddress) : Attempt → List Event
  | .accepted _ _ => [.connecting a s.unit, .connected a]
  | .failed fault => [.connecting a s.unit, .connectFailed a fault]
  | .hung => [.connecting a s.unit, .connectTimedOut a s.timeout]

/-- Why an attempt at an address makes no connection. -/
def Attempt.failure (s : Settings) (a : SocketAddress) : Attempt → Option Failure
  | .accepted _ _ => none
  | .failed fault => some (.connect a fault)
  | .hung => some (.timedOut s.timeout)

/-- There is a failure to tell of exactly if no connection is made. -/
theorem Attempt.exists_failure {t : Attempt} (s : Settings) (a : SocketAddress)
    (h : t.accepts = false) : ∃ f, t.failure s a = some f := by
  cases t with
  | accepted place service => cases h
  | failed fault => exact ⟨_, rfl⟩
  | hung => exact ⟨_, rfl⟩

/-- The address of an attempt that begins. -/
def Event.attempted? : Event → Option SocketAddress
  | .connecting a _ => some a
  | _ => none

/-- The addresses of the attempts that a journal tells of, in order. -/
def attempted (log : List Event) : List SocketAddress := log.filterMap Event.attempted?

theorem attempted_append (log later : List Event) :
    attempted (log ++ later) = attempted log ++ attempted later :=
  List.filterMap_append

theorem attempted_events (s : Settings) (a : SocketAddress) (t : Attempt) :
    attempted (t.events s a) = [a] := by
  cases t <;> rfl

/-- A slot waits for attempts at its own address only. -/
theorem Slot.awaits_unique {a b : SocketAddress} {slot : Slot} (ha : slot.awaits a = true)
    (hb : slot.awaits b = true) : a = b := by
  simp only [Slot.awaits, Bool.and_eq_true, beq_iff_eq] at ha hb
  rw [← ha.2, hb.2]

theorem Slot.awaits_used (a : SocketAddress) (slot : Slot) :
    Slot.awaits a { slot with used := true } = false := rfl

namespace Roster

/-- The servers at an address that have had no attempt, in order, each with its place. The first
slot has the place `n`. -/
def waitingFrom (a : SocketAddress) (n : Nat) (r : Roster) : List (Slot × Nat) :=
  (r.zipIdx n).filter fun e => e.1.awaits a

/-- The servers at an address that have had no attempt, in order, each with its place. -/
def waiting (a : SocketAddress) (r : Roster) : List (Slot × Nat) := waitingFrom a 0 r

/-- The servers after those at some places have had their attempt. -/
def spend (places : List Nat) (r : Roster) : Roster :=
  r.mapIdx fun i slot => if i ∈ places then { slot with used := true } else slot

/-- The server that gets attempt number `i` of attempts at some addresses, if one is left for it:
the attempts before it that go to the same address get the servers before it. -/
def serverFor (as : List SocketAddress) (r : Roster) (i : Nat) : Option (Slot × Nat) :=
  as[i]?.bind fun a => (r.waiting a)[(as.take i).count a]?

/-- What comes of attempt number `i` of attempts at some addresses. -/
def trial (as : List SocketAddress) (r : Roster) (i : Nat) : Attempt :=
  match r.serverFor as i with
  | none => .failed .connectionRefused
  | some (slot, place) => .ofAdmission place slot.server.admission

/-- The places of the servers that the first `n` of attempts at some addresses go to. -/
def placesTried (as : List SocketAddress) (n : Nat) (r : Roster) : List Nat :=
  (List.range n).filterMap fun i => (r.serverFor as i).map Prod.snd

/-- The servers after the first `n` of attempts at some addresses. -/
def afterTrials (as : List SocketAddress) (n : Nat) (r : Roster) : Roster :=
  r.spend (r.placesTried as n)

/-- Why there is no connection after attempts at some addresses, none of which was accepted; `f` is
why there was none before. -/
def lastFailure (s : Settings) (f : Failure) (as : List SocketAddress) (r : Roster) : Failure :=
  (as.getLast?.bind fun a => (r.trial as (as.length - 1)).failure s a).getD f

/-- What the journal says of the first `n` of attempts at some addresses. -/
def trialLog (s : Settings) (as : List SocketAddress) (n : Nat) (r : Roster) : List Event :=
  ((as.take n).mapIdx fun i a => (r.trial as i).events s a).flatten

/-! ## One attempt -/

theorem waitingFrom_cons (b : SocketAddress) (n : Nat) (slot : Slot) (r : Roster) :
    waitingFrom b n (slot :: r) =
      (if slot.awaits b then [(slot, n)] else []) ++ waitingFrom b (n + 1) r := by
  by_cases h : slot.awaits b = true
  · simp [waitingFrom, h]
  · simp [waitingFrom, h]

theorem le_of_mem_waitingFrom {b : SocketAddress} {n : Nat} {r : Roster} {e : Slot × Nat}
    (h : e ∈ waitingFrom b n r) : n ≤ e.2 :=
  List.le_snd_of_mem_zipIdx (List.mem_filter.1 h).1

/-- An attempt goes to the first server that waits for it. -/
theorem attemptFrom_fst (a : SocketAddress) (n : Nat) (r : Roster) :
    (attemptFrom a n r).1 =
      match (waitingFrom a n r).head? with
      | none => .failed .connectionRefused
      | some (slot, place) => .ofAdmission place slot.server.admission := by
  induction r generalizing n with
  | nil => rfl
  | cons slot rest ih =>
    rw [attemptFrom, waitingFrom_cons]
    by_cases h : slot.awaits a = true
    · simp [h]
    · simp [h, ih]

/-- An attempt takes the first server that waits for it out of those that wait. -/
theorem waitingFrom_attemptFrom (a b : SocketAddress) (n : Nat) (r : Roster) :
    waitingFrom b n (attemptFrom a n r).2 = (waitingFrom b n r).drop ([a].count b) := by
  induction r generalizing n with
  | nil => simp [attemptFrom, waitingFrom]
  | cons slot rest ih =>
    by_cases h : slot.awaits a = true
    · rw [attemptFrom, if_pos h, waitingFrom_cons, waitingFrom_cons, Slot.awaits_used]
      by_cases hab : a = b
      · subst hab
        simp [h]
      · have hb : ¬slot.awaits b = true := fun hb => hab (Slot.awaits_unique h hb)
        simp [hb, hab]
    · rw [attemptFrom, if_neg h]
      simp only [waitingFrom_cons, ih]
      by_cases hb : slot.awaits b = true
      · have hab : a ≠ b := fun e => h (e ▸ hb)
        simp [hb, hab]
      · simp [hb]

/-- An attempt changes nothing but that the server which it goes to has had its attempt. -/
theorem attemptFrom_snd (a : SocketAddress) (n : Nat) (r : Roster) :
    (attemptFrom a n r).2 = r.mapIdx fun i slot =>
      if (waitingFrom a n r).head?.map Prod.snd = some (i + n) then { slot with used := true }
      else slot := by
  induction r generalizing n with
  | nil => rfl
  | cons slot rest ih =>
    rw [attemptFrom, waitingFrom_cons, List.mapIdx_cons]
    by_cases h : slot.awaits a = true
    · have hrest : rest = rest.mapIdx fun _ slot => slot := by
        apply List.ext_getElem?
        intro i
        simp
      simpa [h] using hrest
    · have hfirst : ¬(waitingFrom a (n + 1) rest).head?.map Prod.snd = some n := by
        intro hc
        obtain ⟨e, he, hen⟩ := Option.map_eq_some_iff.1 hc
        have hle := le_of_mem_waitingFrom (List.mem_of_mem_head? he)
        omega
      have hshift : ∀ i, i + 1 + n = i + (n + 1) := by omega
      simp only [h, hfirst, ih, hshift, Bool.false_eq_true, if_false, List.nil_append, Nat.zero_add]

theorem serverFor_zero (a : SocketAddress) (as : List SocketAddress) (r : Roster) :
    r.serverFor (a :: as) 0 = (r.waiting a).head? := by
  rw [serverFor, List.getElem?_cons_zero, Option.bind_some, List.take_zero, List.count_nil,
    List.head?_eq_getElem?]

/-- What comes of the first of some attempts is what comes of the attempt at the first address. -/
theorem trial_zero (a : SocketAddress) (as : List SocketAddress) (r : Roster) :
    r.trial (a :: as) 0 = (r.attempt a).1 := by
  rw [attempt, attemptFrom_fst, trial, serverFor_zero]
  rfl

theorem waiting_attempt (a b : SocketAddress) (r : Roster) :
    (r.attempt a).2.waiting b = (r.waiting b).drop ([a].count b) :=
  waitingFrom_attemptFrom a b 0 r

/-- The attempts after the first one are attempts with the servers that it leaves. -/
theorem serverFor_succ (a : SocketAddress) (as : List SocketAddress) (r : Roster) (i : Nat) :
    r.serverFor (a :: as) (i + 1) = (r.attempt a).2.serverFor as i := by
  simp only [serverFor, List.getElem?_cons_succ, List.take_succ_cons]
  cases as[i]? with
  | none => rfl
  | some b =>
    have hcount : (a :: as.take i).count b = [a].count b + (as.take i).count b := by
      rw [← List.count_append, List.singleton_append]
    simp only [Option.bind_some]
    rw [waiting_attempt, List.getElem?_drop, hcount]

theorem trial_succ (a : SocketAddress) (as : List SocketAddress) (r : Roster) (i : Nat) :
    r.trial (a :: as) (i + 1) = (r.attempt a).2.trial as i := by
  rw [trial, trial, serverFor_succ]

theorem spend_nil (r : Roster) : r.spend [] = r := by
  apply List.ext_getElem?
  intro i
  simp [spend]

theorem spend_spend (ps qs : List Nat) (r : Roster) :
    (r.spend ps).spend qs = r.spend (ps ++ qs) := by
  apply List.ext_getElem?
  intro i
  simp only [spend, List.getElem?_mapIdx, List.mem_append]
  grind

theorem attempt_snd (a : SocketAddress) (as : List SocketAddress) (r : Roster) :
    (r.attempt a).2 = r.spend ((r.serverFor (a :: as) 0).map Prod.snd).toList := by
  rw [attempt, attemptFrom_snd, spend, serverFor_zero]
  congr 1
  funext i slot
  simp only [Nat.add_zero, Option.mem_toList]
  rfl

/-- The servers after some attempts are those that the later ones leave of what the first one
leaves. -/
theorem afterTrials_succ (a : SocketAddress) (as : List SocketAddress) (n : Nat) (r : Roster) :
    r.afterTrials (a :: as) (n + 1) = (r.attempt a).2.afterTrials as n := by
  have hplaces : r.placesTried (a :: as) (n + 1) =
      ((r.serverFor (a :: as) 0).map Prod.snd).toList ++ (r.attempt a).2.placesTried as n := by
    rw [placesTried, placesTried, List.range_succ_eq_map, List.filterMap_cons, List.filterMap_map]
    simp only [Function.comp_def, Nat.succ_eq_add_one, serverFor_succ]
    cases (r.serverFor (a :: as) 0).map Prod.snd <;> rfl
  rw [afterTrials, hplaces, ← spend_spend, ← attempt_snd]
  rfl

theorem trialLog_succ (s : Settings) (a : SocketAddress) (as : List SocketAddress) (n : Nat)
    (r : Roster) :
    r.trialLog s (a :: as) (n + 1) =
      (r.attempt a).1.events s a ++ (r.attempt a).2.trialLog s as n := by
  simp only [trialLog, List.take_succ_cons, List.mapIdx_cons, List.flatten_cons, trial_zero,
    trial_succ]

/-- A server that an attempt goes to is one that had no attempt. -/
theorem getElem?_of_mem_waiting {a : SocketAddress} {r : Roster} {slot : Slot} {place : Nat}
    (h : (slot, place) ∈ r.waiting a) : r[place]? = some slot ∧ slot.used = false := by
  obtain ⟨hmem, hawaits⟩ := List.mem_filter.1 h
  have hused : slot.used = false := by
    simp only [Slot.awaits, Bool.and_eq_true, Bool.not_eq_true'] at hawaits
    exact hawaits.1
  exact ⟨List.mem_zipIdx_iff_getElem?.1 hmem, hused⟩

/-- A server that accepts an attempt had none before, and says so in its script. -/
theorem of_trial_accepted {as : List SocketAddress} {r : Roster} {i place : Nat} {service : Service}
    (h : r.trial as i = .accepted place service) :
    ∃ slot, r.serverFor as i = some (slot, place) ∧ r[place]? = some slot ∧ slot.used = false ∧
      slot.server.admission = .accept service := by
  rw [trial] at h
  cases hs : r.serverFor as i with
  | none => rw [hs] at h; cases h
  | some e =>
    obtain ⟨slot, p⟩ := e
    rw [hs] at h
    simp only at h
    obtain ⟨a, -, ha⟩ := Option.bind_eq_some_iff.1 hs
    have hmem := getElem?_of_mem_waiting (List.mem_of_getElem? ha)
    cases hadm : slot.server.admission with
    | accept service' =>
      rw [hadm] at h
      cases h
      exact ⟨slot, rfl, hmem.1, hmem.2, hadm⟩
    | refuse fault => rw [hadm] at h; cases h
    | hang => rw [hadm] at h; cases h

/-! ## A search -/

theorem search_cons (s : Settings) (f : Failure) (a : SocketAddress) (as : List SocketAddress)
    (r : Roster) :
    r.search s f (a :: as) =
      match (r.attempt a).1 with
      | .accepted place service =>
        ⟨.ok (place, service), (r.attempt a).1.events s a, (r.attempt a).2⟩
      | t =>
        let later := (r.attempt a).2.search s ((t.failure s a).getD f) as
        { later with log := t.events s a ++ later.log } := by
  rw [search]
  rcases r.attempt a with ⟨_ | _ | _, r'⟩ <;> rfl

/-- A search stops at the first attempt that is accepted, and has made all attempts up to it. -/
theorem search_of_accepted (s : Settings) (as : List SocketAddress) (f : Failure) (r : Roster)
    (i place : Nat) (service : Service) (hi : i < as.length)
    (hacc : r.trial as i = .accepted place service)
    (hbefore : ∀ j < i, (r.trial as j).accepts = false) :
    r.search s f as =
      ⟨.ok (place, service), r.trialLog s as (i + 1), r.afterTrials as (i + 1)⟩ := by
  induction as generalizing f r i with
  | nil => exact absurd hi (Nat.not_lt_zero i)
  | cons a as ih =>
    rw [search_cons, trialLog_succ, afterTrials_succ]
    cases i with
    | zero =>
      rw [trial_zero] at hacc
      rw [hacc]
      simp [trialLog, afterTrials, placesTried, spend_nil]
    | succ i =>
      have hfirst := hbefore 0 (Nat.succ_pos i)
      rw [trial_zero] at hfirst
      have hlength : i < as.length := Nat.lt_of_succ_lt_succ hi
      have hrest : (r.attempt a).2.trial as i = .accepted place service := by
        rw [← trial_succ]
        exact hacc
      have hearlier : ∀ j < i, ((r.attempt a).2.trial as j).accepts = false := by
        intro j hj
        rw [← trial_succ]
        exact hbefore (j + 1) (Nat.succ_lt_succ hj)
      have hlater : ∀ f', (r.attempt a).2.search s f' as =
          ⟨.ok (place, service), (r.attempt a).2.trialLog s as (i + 1),
            (r.attempt a).2.afterTrials as (i + 1)⟩ := by
        intro f'
        exact ih f' (r.attempt a).2 i hlength hrest hearlier
      cases ht : (r.attempt a).1 with
      | accepted place' service' => rw [ht] at hfirst; cases hfirst
      | failed fault => simp only [hlater]
      | hung => simp only [hlater]

/-- Only the last attempt says why there is no connection. -/
theorem lastFailure_cons (s : Settings) (f : Failure) (a : SocketAddress) (as : List SocketAddress)
    (r : Roster) (hall : ∀ i < as.length, ((r.attempt a).2.trial as i).accepts = false) :
    r.lastFailure s f (a :: as) =
      (r.attempt a).2.lastFailure s (((r.attempt a).1.failure s a).getD f) as := by
  cases as with
  | nil => simp [lastFailure, trial_zero]
  | cons b bs =>
    obtain ⟨g, hg⟩ := Attempt.exists_failure s ((b :: bs).getLast (List.cons_ne_nil b bs))
      (hall bs.length (Nat.lt_succ_self _))
    simp [lastFailure, trial_succ, List.getLast?_eq_some_getLast, hg]

/-- The last of some attempts, none of which was accepted, has a failure to tell of. -/
theorem exists_lastFailure (s : Settings) (f : Failure) {a : SocketAddress}
    {as : List SocketAddress} {r : Roster} (ha : as.getLast? = some a)
    (hall : ∀ i < as.length, (r.trial as i).accepts = false) :
    (r.trial as (as.length - 1)).failure s a = some (r.lastFailure s f as) := by
  have hpos : 0 < as.length := by
    rw [List.length_pos_iff]
    rintro rfl
    cases ha
  obtain ⟨g, hg⟩ := Attempt.exists_failure s a (hall (as.length - 1) (by omega))
  rw [lastFailure, ha, Option.bind_some, hg, Option.getD_some]

/-- A search none of whose attempts is accepted makes them all, and the last one says why it
fails. -/
theorem search_of_refused (s : Settings) (as : List SocketAddress) (f : Failure) (r : Roster)
    (hall : ∀ i < as.length, (r.trial as i).accepts = false) :
    r.search s f as =
      ⟨.error (r.lastFailure s f as), r.trialLog s as as.length, r.afterTrials as as.length⟩ := by
  induction as generalizing f r with
  | nil => simp [search, lastFailure, trialLog, afterTrials, placesTried, spend_nil]
  | cons a as ih =>
    have hfirst := hall 0 (Nat.succ_pos _)
    rw [trial_zero] at hfirst
    have hrest : ∀ i < as.length, ((r.attempt a).2.trial as i).accepts = false := by
      intro i hi
      rw [← trial_succ]
      exact hall (i + 1) (Nat.succ_lt_succ hi)
    rw [search_cons, List.length_cons, trialLog_succ, afterTrials_succ,
      lastFailure_cons s f a as r hrest]
    cases ht : (r.attempt a).1 with
    | accepted place service => rw [ht] at hfirst; cases hfirst
    | failed fault => simp only [ih _ _ hrest]
    | hung => simp only [ih _ _ hrest]

/-- Of some attempts one is the first that is accepted, or none is accepted. -/
theorem trial_cases (as : List SocketAddress) (r : Roster) :
    (∃ i place service, i < as.length ∧ r.trial as i = .accepted place service ∧
      ∀ j < i, (r.trial as j).accepts = false) ∨
    ∀ i < as.length, (r.trial as i).accepts = false := by
  by_cases h : ∃ i, i < as.length ∧ (r.trial as i).accepts = true
  · left
    obtain ⟨hlt, hacc⟩ := Nat.find_spec h
    have hbefore : ∀ j < Nat.find h, (r.trial as j).accepts = false := by
      intro j hj
      have hmin := Nat.find_min h hj
      by_contra hc
      exact hmin ⟨Nat.lt_trans hj hlt, by simpa using hc⟩
    cases ht : r.trial as (Nat.find h) with
    | accepted place service => exact ⟨_, place, service, hlt, ht, hbefore⟩
    | failed fault => rw [ht] at hacc; cases hacc
    | hung => rw [ht] at hacc; cases hacc
  · right
    intro i hi
    by_contra hc
    exact h ⟨i, hi, by simpa using hc⟩

/-- A search uses up one server for each of its attempts, as long as there are any, and these are
the attempts that the journal tells of. -/
theorem waiting_search (s : Settings) (as : List SocketAddress) (f : Failure) (r : Roster)
    (b : SocketAddress) :
    (r.search s f as).roster.waiting b =
      (r.waiting b).drop ((attempted (r.search s f as).log).count b) := by
  induction as generalizing f r with
  | nil => rfl
  | cons a as ih =>
    have hdrop : ∀ n, ((r.attempt a).2.waiting b).drop n =
        (r.waiting b).drop ([a].count b + n) := by
      intro n
      rw [waiting_attempt, List.drop_drop]
    rw [search_cons]
    cases ht : (r.attempt a).1 with
    | accepted place service =>
      simpa [attempted_events] using hdrop 0
    | failed fault =>
      simp only [attempted_append, attempted_events]
      rw [List.count_append, ← hdrop, ih]
    | hung =>
      simp only [attempted_append, attempted_events]
      rw [List.count_append, ← hdrop, ih]

end Roster

end CoilProbe
