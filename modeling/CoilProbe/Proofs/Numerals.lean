import CoilProbe.CommandLine.Number
import Mathlib.Tactic.Common

/-!
# Numbers that are accepted

`readNumber_eq_ok` says how the numbers are written that a command line may hold, without reading
them from left to right: it is their value as a whole that has to fit.
-/

namespace CoilProbe

/-- How a number is written: digits, perhaps after a plus sign. -/
def SpellsNumber (n : UInt64) (cs : List Char) : Prop :=
  ∃ digits, (cs = digits ∨ cs = '+' :: digits) ∧ digits ≠ [] ∧
    (∀ c ∈ digits, c.isDigit = true) ∧ Nat.ofDigitChars 10 digits 0 = n.toNat

theorem exists_spellsNumber (n : UInt64) : ∃ cs, SpellsNumber n cs :=
  ⟨_, Nat.toDigits 10 n.toNat, .inl rfl, Nat.toDigits_ne_nil,
    fun _ hc => Nat.isDigit_of_mem_toDigits (by decide) (by decide) hc,
    Nat.ofDigitChars_toDigits (by decide) (by decide)⟩

theorem SpellsNumber.exists_cons {n : UInt64} {cs : List Char} (h : SpellsNumber n cs) :
    ∃ c rest, cs = c :: rest ∧ (c = '+' ∨ c.isDigit = true) := by
  obtain ⟨digits, hcs, hne, hall, -⟩ := h
  cases digits with
  | nil => exact absurd rfl hne
  | cons c rest =>
    rcases hcs with rfl | rfl
    · exact ⟨c, rest, rfl, .inr (hall c List.mem_cons_self)⟩
    · exact ⟨'+', c :: rest, rfl, .inl rfl⟩

theorem SpellsNumber.head?_ne {n : UInt64} {cs : List Char} (h : SpellsNumber n cs) {c : Char}
    (hplus : c ≠ '+') (hdigit : c.isDigit = false) : cs.head? ≠ some c := by
  obtain ⟨c', rest, rfl, hc'⟩ := h.exists_cons
  intro hhead
  cases hhead
  rw [hdigit] at hc'
  exact hc'.elim hplus Bool.false_ne_true

theorem decimalDigit?_of_isDigit {c : Char} (h : c.isDigit = true) :
    decimalDigit? c = some (c.toNat - '0'.toNat) := by
  rw [Char.isDigit, Bool.and_eq_true, decide_eq_true_iff, decide_eq_true_iff] at h
  exact if_pos h

theorem decimalDigit?_of_not_isDigit {c : Char} (h : ¬c.isDigit = true) :
    decimalDigit? c = none := by
  rw [Char.isDigit, Bool.and_eq_true, decide_eq_true_iff, decide_eq_true_iff] at h
  exact if_neg h

/-- More digits make no number smaller. -/
theorem le_ofDigitChars (digits : List Char) (value : Nat) :
    value ≤ Nat.ofDigitChars 10 digits value := by
  rw [Nat.ofDigitChars_eq_ofDigitChars_zero]
  have hpos : 0 < 10 ^ digits.length := Nat.pow_pos (by decide)
  have hle := Nat.le_mul_of_pos_left value hpos
  omega

theorem readDigits_eq_ok {value n : Nat} {cs : List Char} (hvalue : value < UInt64.size) :
    readDigits value cs = .ok n ↔
      (∀ c ∈ cs, c.isDigit = true) ∧ Nat.ofDigitChars 10 cs value = n ∧ n < UInt64.size := by
  induction cs generalizing value with
  | nil =>
    rw [readDigits, Nat.ofDigitChars_nil]
    constructor
    · rintro ⟨⟩
      exact ⟨List.forall_mem_nil _, rfl, hvalue⟩
    · rintro ⟨-, rfl, -⟩
      rfl
  | cons c cs ih =>
    rw [readDigits, List.forall_mem_cons, Nat.ofDigitChars_cons]
    by_cases hc : c.isDigit = true
    · rw [decimalDigit?_of_isDigit hc]
      simp only [hc, true_and, Nat.mul_comm 10 value]
      by_cases hlarge : UInt64.size ≤ value * 10 + (c.toNat - '0'.toNat)
      · rw [if_pos hlarge]
        constructor
        · rintro ⟨⟩
        rintro ⟨-, rfl, hlt⟩
        have hle := le_ofDigitChars cs (value * 10 + (c.toNat - '0'.toNat))
        omega
      · rw [if_neg hlarge, ih (by omega)]
    · rw [decimalDigit?_of_not_isDigit hc]
      constructor
      · rintro ⟨⟩
      · intro h
        exact absurd h.1.1 hc

theorem readNumber_eq_ok {n : UInt64} {cs : List Char} :
    readNumber cs = .ok n ↔ SpellsNumber n cs := by
  have hread {digits : List Char} : (readDigits 0 digits).map UInt64.ofNat = .ok n ↔
      (∀ c ∈ digits, c.isDigit = true) ∧ Nat.ofDigitChars 10 digits 0 = n.toNat := by
    constructor
    · intro h
      cases hdigits : readDigits 0 digits with
      | error fault =>
        rw [hdigits] at h
        cases h
      | ok m =>
        rw [hdigits] at h
        obtain ⟨hall, hm, hlt⟩ := (readDigits_eq_ok (by decide)).1 hdigits
        cases h
        exact ⟨hall, by rw [hm, UInt64.toNat_ofNat_of_lt' hlt]⟩
    · rintro ⟨hall, hn⟩
      rw [(readDigits_eq_ok (by decide)).2 ⟨hall, hn, n.toNat_lt_size⟩, Except.map, UInt64.ofNat_toNat]
  unfold readNumber
  split
  · constructor
    · rintro ⟨⟩
    · rintro ⟨digits, rfl | h, hne, -⟩
      · exact absurd rfl hne
      · cases h
  · constructor
    · rintro ⟨⟩
    · rintro ⟨digits, rfl | h, hne, hall, -⟩
      · exact absurd (hall '+' List.mem_cons_self) (by decide)
      · cases h
        exact absurd rfl hne
  · rename_i digits hne
    rw [hread]
    constructor
    · rintro ⟨hall, hn⟩
      exact ⟨digits, .inr rfl, fun h => hne (by rw [h]), hall, hn⟩
    · rintro ⟨digits', rfl | h, -, hall, hn⟩
      · exact absurd (hall '+' List.mem_cons_self) (by decide)
      · cases h
        exact ⟨hall, hn⟩
  · rename_i digits hne hplus hrest
    rw [hread]
    constructor
    · rintro ⟨hall, hn⟩
      exact ⟨cs, .inl rfl, hne, hall, hn⟩
    · rintro ⟨digits', rfl | rfl, -, hall, hn⟩
      · exact ⟨hall, hn⟩
      · exact absurd rfl (hrest digits')

end CoilProbe
