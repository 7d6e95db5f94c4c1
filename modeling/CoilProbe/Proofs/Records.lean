import CoilProbe.Proofs.Wire

/-!
# The record of a server

When a session is over, the record of a server holds what was taken over the connection to it, and
nothing if there was none: `takenAt_eq`. The requests of a session are these records, one for each
server that accepts: `requests_eq`.
-/

namespace CoilProbe

namespace Roster

variable {cs : List Holding}

theorem getElem?_foldl_note_of_notMem (r : Roster) {i : Nat} (hi : i ∉ cs.map Holding.place) :
    (cs.foldl (fun r c => r.note c.place c.link.requests) r)[i]? = r[i]? := by
  induction cs generalizing r with
  | nil => rfl
  | cons c cs ih =>
    rw [List.map_cons, List.mem_cons, not_or] at hi
    obtain ⟨hfirst, hlater⟩ := hi
    rw [List.foldl_cons, ih _ hlater, getElem?_note]
    simp only [Ne.symm hfirst, if_false]
    exact Option.map_id'

/-- If no two connections are to the same server, the record of a server with a connection is what
was taken over this one. -/
theorem getElem?_foldl_note_of_mem {c : Holding} (r : Roster)
    (hnodup : (cs.map Holding.place).Nodup) (hc : c ∈ cs) :
    (cs.foldl (fun r c => r.note c.place c.link.requests) r)[c.place]? =
      r[c.place]?.map fun slot => { slot with requests := c.link.requests } := by
  induction cs generalizing r with
  | nil => cases hc
  | cons d cs ih =>
    rw [List.map_cons, List.nodup_cons] at hnodup
    obtain ⟨hfirst, hlater⟩ := hnodup
    rw [List.foldl_cons]
    rcases List.mem_cons.1 hc with rfl | hc
    · rw [getElem?_foldl_note_of_notMem _ hfirst, getElem?_note]
      simp only [if_true]
    · have hne : d.place ≠ c.place := fun e => hfirst (e ▸ List.mem_map_of_mem hc)
      rw [ih _ hlater hc, getElem?_note, Option.map_map]
      simp only [Function.comp_def, hne, if_false]

end Roster

namespace Session

/-- The requests that the server at a place has taken when a session is over. -/
def takenAt (place : Nat) (s : Session) : List Bytes :=
  (s.accounts[place]?.map Slot.requests).getD []

variable {servers : List Server} {rs : List (Option (Nat × UInt16))} {s t : Session}

/-- The record of a server with a connection, in any session without two connections to the same
server. -/
theorem takenAt_of_mem {c : Holding} (hnodup : (s.connections.map Holding.place).Nodup)
    (hslot : ∃ slot, s.roster[c.place]? = some slot) (hc : c ∈ s.connections) :
    s.takenAt c.place = c.link.requests := by
  obtain ⟨slot, hslot⟩ := hslot
  have hnoted := Roster.getElem?_foldl_note_of_mem s.roster hnodup hc
  rw [hslot] at hnoted
  rw [takenAt, accounts]
  exact congrArg (fun o => (o.map Slot.requests).getD []) hnoted

theorem Inv.takenAt_of_mem (h : Inv servers rs s) {c : Holding} (hc : c ∈ s.connections) :
    s.takenAt c.place = c.link.requests := by
  obtain ⟨slot, hslot, -⟩ := h.used c.place (List.mem_map_of_mem hc)
  exact Session.takenAt_of_mem h.nodup ⟨slot, hslot⟩ hc

theorem Inv.takenAt_of_notMem (h : Inv servers rs s) {place : Nat}
    (hplace : place ∉ s.connections.map Holding.place) : s.takenAt place = [] := by
  have hnoted := Roster.getElem?_foldl_note_of_notMem s.roster hplace
  rw [takenAt, accounts]
  refine (congrArg (fun o => (o.map Slot.requests).getD []) hnoted).trans ?_
  cases hslot : s.roster[place]? with
  | none => rfl
  | some slot => exact h.unrecorded slot (List.mem_of_getElem? hslot)

/-- The record of a server is what was taken over the connection to it, if the session has made
one. -/
theorem Inv.takenAt_eq (h : Inv servers rs s) (place : Nat) :
    s.takenAt place =
      (s.connections.find? fun c => c.place == place).elim [] fun c => c.link.requests := by
  cases hfind : s.connections.find? fun c => c.place == place with
  | none =>
    refine h.takenAt_of_notMem fun hmem => ?_
    obtain ⟨c, hc, hplace⟩ := List.mem_map.1 hmem
    have hother := List.find?_eq_none.1 hfind c hc
    simp [hplace] at hother
  | some c =>
    have hplace : c.place = place := by simpa using List.find?_some hfind
    rw [← hplace]
    exact h.takenAt_of_mem (List.mem_of_find?_eq_some hfind)

/-- What a server has taken are the requests for the first reads over its connection. -/
theorem Inv.takenAt_begins (h : Inv servers rs s) (place : Nat) :
    s.takenAt place <+: wire s.settings.unit (addressesAt place rs) := by
  rw [takenAt]
  cases hslot : s.accounts[place]? with
  | none => exact List.nil_prefix
  | some slot => exact h.requests_prefix hslot

/-- The requests of a session are the records of the servers that accept, in order. -/
theorem Inv.requests_eq (h : Inv servers rs s) :
    s.requests = (acceptingPlaces servers).map s.takenAt := by
  have hslots : ∀ i slot, s.accounts[i]? = some slot → s.takenAt (0 + i) = slot.requests := by
    intro i slot hslot
    rw [Nat.zero_add, takenAt, hslot]
    rfl
  have hall := Roster.forall₂_requests (fun place taken => s.takenAt place = taken) _ 0 hslots
  rw [h.map_server_accounts] at hall
  have heq := List.forall₂_map_left_iff (f := s.takenAt) (R := Eq).2 hall
  rw [List.forall₂_eq_eq_eq] at heq
  exact heq.symm

/-- Two sessions with the same servers and the same connections have taken the same requests. -/
theorem requests_congr {rs' : List (Option (Nat × UInt16))} (hs : Inv servers rs s)
    (ht : Inv servers rs' t) (h : s.connections = t.connections) : s.requests = t.requests := by
  rw [hs.requests_eq, ht.requests_eq]
  refine List.map_congr_left fun place _ => ?_
  rw [hs.takenAt_eq, ht.takenAt_eq, h]

end Session

end CoilProbe
