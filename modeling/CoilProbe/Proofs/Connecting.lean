import CoilProbe.Proofs.Runs

/-!
# Making a connection

`connect_tries_in_order` says what making a connection does in any state of a session: which
attempts it makes, with which servers, when it stops, what it holds afterwards and what it fails
with. The servers that wait at an address are those of the network after as many as the session has
made attempts there, which is `waiting_after`.
-/

namespace CoilProbe

/-- An attempt that makes no connection is no lack of addresses. -/
theorem Attempt.failure_ne_noAddress {t : Attempt} {s : Settings} {a : SocketAddress} {f : Failure}
    (h : t.failure s a = some f) (host : String) : f ≠ .noAddress host := by
  cases t <;> cases h <;> intro hf <;> cases hf

namespace Session

/-- A step uses up one server at an address, as long as there is any, for each attempt there that
it tells of. -/
theorem waiting_perform (s : Session) (step : Step) (a : SocketAddress) :
    (s.perform step).session.roster.waiting a =
      (s.roster.waiting a).drop ((attempted (s.perform step).log).count a) := by
  cases step with
  | connect =>
    cases hres : s.names.resolve s.settings.host s.settings.timeout.toNat with
    | late => simp [perform, connect_of_late hres, attempted]
    | failed fault => simp [perform, connect_of_failed hres, attempted]
    | found ips =>
      have hsearch := Roster.waiting_search s.settings (targets s.settings ips)
        (.noAddress s.settings.host) s.roster a
      simp only [perform, connect_of_found hres, searched]
      split
      · exact hsearch
      · exact hsearch
  | isOpen => rfl
  | settings => rfl
  | read b =>
    cases hheld : s.held with
    | none => simp [perform, read_of_not_held b hheld, attempted]
    | some h =>
      have hlog : attempted [.reading b] = [] := rfl
      simp [perform, read_of_held b hheld, hlog]

/-- A run uses up one server at an address for each attempt there that it tells of. -/
theorem waiting_after (s : Session) (steps : List Step) (a : SocketAddress) :
    (s.after steps).roster.waiting a =
      (s.roster.waiting a).drop ((attempted (s.journal steps)).count a) := by
  induction steps generalizing s with
  | nil => rfl
  | cons step steps ih =>
    rw [after_cons, ih, waiting_perform, journal_cons, attempted_append, List.count_append,
      List.drop_drop]

/-- Of the failures of making a connection, only one is a lack of addresses: that of a lookup which
finds none. -/
theorem connect_noAddress_iff (s : Session) (host : String) :
    s.connect.result = .error (.noAddress host) ↔
      host = s.settings.host ∧
        s.names.resolve s.settings.host s.settings.timeout.toNat = .found [] := by
  cases hres : s.names.resolve s.settings.host s.settings.timeout.toNat with
  | late => simp [connect_of_late hres]
  | failed fault => simp [connect_of_failed hres]
  | found ips =>
    rcases Roster.trial_cases (targets s.settings ips) s.roster with
      ⟨i, place, service, hi, hacc, hbefore⟩ | hall
    · have hips : ips ≠ [] := fun e => absurd hi (by simp [e, targets])
      simp [connect_of_accepted hres rfl hi hacc hbefore, hips]
    · rw [connect_of_refused hres rfl hall]
      cases hlast : (targets s.settings ips).getLast? with
      | none =>
        have hips : ips = [] := List.map_eq_nil_iff.1 (List.getLast?_eq_none_iff.1 hlast)
        rw [Roster.lastFailure, hlast]
        simp [hips, eq_comm]
      | some a =>
        have hips : ips ≠ [] := fun e => by simp [e, targets] at hlast
        have hf := Roster.exists_lastFailure s.settings (.noAddress s.settings.host) hlast hall
        simp [hips, Attempt.failure_ne_noAddress hf host]

/-- A connection is made exactly if one of the attempts is accepted. -/
theorem connect_ok_iff {s : Session} {ips : List IPAddress}
    (hres : s.names.resolve s.settings.host s.settings.timeout.toNat = .found ips) :
    s.connect.result = .ok () ↔ ∃ i < (targets s.settings ips).length,
      (s.roster.trial (targets s.settings ips) i).accepts = true := by
  rcases Roster.trial_cases (targets s.settings ips) s.roster with
    ⟨i, place, service, hi, hacc, hbefore⟩ | hall
  · rw [connect_of_accepted hres rfl hi hacc hbefore]
    exact ⟨fun _ => ⟨i, hi, by rw [hacc]; rfl⟩, fun _ => rfl⟩
  · rw [connect_of_refused hres rfl hall]
    constructor
    · intro h
      cases h
    · rintro ⟨i, hi, hacc⟩
      rw [hall i hi] at hacc
      cases hacc

/-- Making a connection tries the addresses of the host in order, each with the next server there
that has had no attempt, and stops at the first one that accepts. -/
theorem connect_tries_in_order :
    (∀ s : Session,
      let found := s.names.resolve s.settings.host s.settings.timeout.toNat
      (found = .late → s.connect = ⟨.error (.timedOut s.settings.timeout), [], s⟩) ∧
      (∀ fault, found = .failed fault →
        s.connect = ⟨.error (.lookup s.settings.host fault), [], s⟩) ∧
      (found = .found [] → s.connect = ⟨.error (.noAddress s.settings.host), [], s⟩) ∧
      (∀ host, s.connect.result = .error (.noAddress host) ↔
        host = s.settings.host ∧ found = .found []) ∧
      ∀ ips, found = .found ips →
        let as := targets s.settings ips
        let trial := s.roster.trial as
        (s.connect.result = .ok () ↔ ∃ i < as.length, (trial i).accepts = true) ∧
        (∀ i place service, i < as.length → trial i = .accepted place service →
          (∀ j < i, (trial j).accepts = false) →
          s.connect = ⟨.ok (), s.roster.trialLog s.settings as (i + 1),
            { s with
              roster := s.roster.afterTrials as (i + 1)
              held := some ⟨place, .connect s.settings.unit service⟩
              past := s.held.toList ++ s.past }⟩) ∧
        ((∀ i < as.length, (trial i).accepts = false) →
          s.connect.session = { s with roster := s.roster.afterTrials as as.length } ∧
          s.connect.log = s.roster.trialLog s.settings as as.length ∧
          ∀ a, as.getLast? = some a → ∃ f,
            (trial (as.length - 1)).failure s.settings a = some f ∧
              s.connect.result = .error f)) ∧
    ∀ settings network steps a,
      ((start settings network).after steps).roster.waiting a =
        ((Roster.ofServers network.servers).waiting a).drop
          ((attempted ((start settings network).journal steps)).count a) := by
  refine ⟨fun s => ⟨?_, ?_, ?_, s.connect_noAddress_iff, ?_⟩, fun settings network steps a => ?_⟩
  · intro hres
    simp only [connect, hres]
  · intro fault hres
    simp only [connect, hres]
  · intro hres
    simp only [connect, hres]
    rfl
  · intro ips hres
    refine ⟨connect_ok_iff hres, ?_, ?_⟩
    · intro i place service hi hacc hbefore
      exact connect_of_accepted hres rfl hi hacc hbefore
    · intro hall
      rw [connect_of_refused hres rfl hall]
      exact ⟨rfl, rfl, fun a ha => ⟨_, Roster.exists_lastFailure s.settings _ ha hall, rfl⟩⟩
  · exact waiting_after _ steps a

end Session

end CoilProbe
