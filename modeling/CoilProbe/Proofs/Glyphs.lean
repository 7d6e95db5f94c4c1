import CoilProbe.CommandLine.Argument
import Mathlib.Tactic.Common

/-!
# Bytes read as characters

Bytes are read without damage exactly if they are the UTF-8 of a text, and then as its characters:
`Utf8.decode_eq_iff`. `Utf8.Spells` gives the bytes of a character by their ranges, which is how
they are read; `spells_iff` says that these are the bytes with which it is written.
-/

namespace CoilProbe

namespace Utf8

variable {a b : UInt8} {c : Char} {cs : List Char} {bytes rest : Bytes}

/-! ## The bytes of a character -/

/-- A byte that goes on with a character. -/
def Follows (b : UInt8) : Prop := 0x80 ≤ b.toNat ∧ b.toNat ≤ 0xbf

/-- The bytes of a character: the first one says how many there are, and bounds the second one where
there would be fewer or no such character. -/
inductive Spells (c : Char) : Bytes → Prop
  | one {a : UInt8} (ha : a.toNat < 0x80) (hc : c.toNat = a.toNat) : Spells c [a]
  | two {a b : UInt8} (ha : 0xc2 ≤ a.toNat) (ha' : a.toNat < 0xe0) (hb : Follows b)
      (hc : c.toNat = (a.toNat - 0xc0) * 64 + (b.toNat - 0x80)) : Spells c [a, b]
  | three {a b x : UInt8} (ha : 0xe0 ≤ a.toNat) (ha' : a.toNat < 0xf0) (hb : Follows b)
      (hlow : a.toNat = 0xe0 → 0xa0 ≤ b.toNat) (hhigh : a.toNat = 0xed → b.toNat ≤ 0x9f)
      (hx : Follows x)
      (hc : c.toNat = ((a.toNat - 0xe0) * 64 + (b.toNat - 0x80)) * 64 + (x.toNat - 0x80)) :
      Spells c [a, b, x]
  | four {a b x y : UInt8} (ha : 0xf0 ≤ a.toNat) (ha' : a.toNat < 0xf5) (hb : Follows b)
      (hlow : a.toNat = 0xf0 → 0x90 ≤ b.toNat) (hhigh : a.toNat = 0xf4 → b.toNat ≤ 0x8f)
      (hx : Follows x) (hy : Follows y)
      (hc : c.toNat = (((a.toNat - 0xf0) * 64 + (b.toNat - 0x80)) * 64 + (x.toNat - 0x80)) * 64
        + (y.toNat - 0x80)) : Spells c [a, b, x, y]

/-- A character is no surrogate and not too large. -/
theorem toNat_ranges (c : Char) : c.toNat < 0xd800 ∨ (0xdfff < c.toNat ∧ c.toNat < 0x110000) :=
  c.valid

theorem toNat_ofNat_of_lt {n : Nat} (hn : n < 256) : (UInt8.ofNat n).toNat = n :=
  UInt8.toNat_ofNat_of_lt' hn

theorem spells_utf8EncodeChar (c : Char) : Spells c (String.utf8EncodeChar c) := by
  have hranges := toNat_ranges c
  have hval : c.val.toNat = c.toNat := Char.toNat_val
  unfold String.utf8EncodeChar
  rw [hval]
  by_cases hone : c.toNat ≤ 127
  · have ha := toNat_ofNat_of_lt (n := c.toNat) (by omega)
    rw [if_pos hone]
    exact .one (by omega) (by omega)
  have hlast := toNat_ofNat_of_lt (n := c.toNat % 64 + 128) (by omega)
  rw [if_neg hone]
  by_cases htwo : c.toNat ≤ 2047
  · have ha := toNat_ofNat_of_lt (n := c.toNat / 64 % 32 + 192) (by omega)
    rw [if_pos htwo]
    exact .two (by omega) (by omega) ⟨by omega, by omega⟩ (by omega)
  have hx := toNat_ofNat_of_lt (n := c.toNat / 64 % 64 + 128) (by omega)
  rw [if_neg htwo]
  by_cases hthree : c.toNat ≤ 65535
  · have ha := toNat_ofNat_of_lt (n := c.toNat / 4096 % 16 + 224) (by omega)
    rw [if_pos hthree]
    exact .three (by omega) (by omega) ⟨by omega, by omega⟩ (by omega) (by omega)
      ⟨by omega, by omega⟩ (by omega)
  · have ha := toNat_ofNat_of_lt (n := c.toNat / 262144 % 8 + 240) (by omega)
    have hb := toNat_ofNat_of_lt (n := c.toNat / 4096 % 64 + 128) (by omega)
    rw [if_neg hthree]
    exact .four (by omega) (by omega) ⟨by omega, by omega⟩ (by omega) (by omega)
      ⟨by omega, by omega⟩ ⟨by omega, by omega⟩ (by omega)

theorem eq_ofNat {n : Nat} (h : b.toNat = n) : b = UInt8.ofNat n := by
  rw [← h, UInt8.ofNat_toNat]

theorem eq_utf8EncodeChar_of_spells (h : Spells c bytes) : bytes = String.utf8EncodeChar c := by
  have hval : c.val.toNat = c.toNat := Char.toNat_val
  unfold String.utf8EncodeChar
  rw [hval]
  cases h with
  | one ha hc => rw [if_pos (by omega), eq_ofNat hc.symm]
  | @two a b ha ha' hb hc =>
    obtain ⟨hb, hb'⟩ := hb
    rw [if_neg (by omega), if_pos (by omega)]
    rw [← eq_ofNat (b := a) (by omega), ← eq_ofNat (b := b) (by omega)]
  | @three a b x ha ha' hb hlow hhigh hx hc =>
    obtain ⟨hb, hb'⟩ := hb
    obtain ⟨hx, hx'⟩ := hx
    rw [if_neg (by omega), if_neg (by omega), if_pos (by omega)]
    rw [← eq_ofNat (b := a) (by omega), ← eq_ofNat (b := b) (by omega),
      ← eq_ofNat (b := x) (by omega)]
  | @four a b x y ha ha' hb hlow hhigh hx hy hc =>
    obtain ⟨hb, hb'⟩ := hb
    obtain ⟨hx, hx'⟩ := hx
    obtain ⟨hy, hy'⟩ := hy
    rw [if_neg (by omega), if_neg (by omega), if_neg (by omega)]
    rw [← eq_ofNat (b := a) (by omega), ← eq_ofNat (b := b) (by omega),
      ← eq_ofNat (b := x) (by omega), ← eq_ofNat (b := y) (by omega)]

/-- These are the bytes with which a character is written. -/
theorem spells_iff : Spells c bytes ↔ bytes = String.utf8EncodeChar c :=
  ⟨eq_utf8EncodeChar_of_spells, fun h => h ▸ spells_utf8EncodeChar c⟩

/-! ## Reading a character -/

theorem start_one (ha : a.toNat < 0x80) : start a = ([some (Char.ofNat a.toNat)], none) :=
  if_pos ha

theorem start_two (ha : 0xc2 ≤ a.toNat) (ha' : a.toNat < 0xe0) :
    start a = ([], some ⟨a.toNat - 0xc0, 1, 0x80, 0xbf⟩) := by
  unfold start
  simp only
  rw [if_neg (by omega), if_neg (by omega), if_pos ha']

theorem start_three (ha : 0xe0 ≤ a.toNat) (ha' : a.toNat < 0xf0) :
    ∃ low high, start a = ([], some ⟨a.toNat - 0xe0, 2, low, high⟩) ∧
      ∀ n, low ≤ n ∧ n ≤ high ↔ (0x80 ≤ n ∧ n ≤ 0xbf) ∧ (a.toNat = 0xe0 → 0xa0 ≤ n) ∧
        (a.toNat = 0xed → n ≤ 0x9f) := by
  unfold start
  simp only
  rw [if_neg (by omega), if_neg (by omega), if_neg (by omega)]
  by_cases hlow : a.toNat = 0xe0
  · rw [if_pos hlow, hlow]
    exact ⟨_, _, rfl, fun n => by omega⟩
  rw [if_neg hlow]
  by_cases hhigh : a.toNat = 0xed
  · rw [if_pos hhigh, hhigh]
    exact ⟨_, _, rfl, fun n => by omega⟩
  rw [if_neg hhigh, if_pos ha']
  exact ⟨_, _, rfl, fun n => by omega⟩

theorem start_four (ha : 0xf0 ≤ a.toNat) (ha' : a.toNat < 0xf5) :
    ∃ low high, start a = ([], some ⟨a.toNat - 0xf0, 3, low, high⟩) ∧
      ∀ n, low ≤ n ∧ n ≤ high ↔ (0x80 ≤ n ∧ n ≤ 0xbf) ∧ (a.toNat = 0xf0 → 0x90 ≤ n) ∧
        (a.toNat = 0xf4 → n ≤ 0x8f) := by
  unfold start
  simp only
  rw [if_neg (by omega), if_neg (by omega), if_neg (by omega), if_neg (by omega),
    if_neg (by omega), if_neg (by omega)]
  by_cases hlow : a.toNat = 0xf0
  · rw [if_pos hlow, hlow]
    exact ⟨_, _, rfl, fun n => by omega⟩
  rw [if_neg hlow]
  by_cases hhigh : a.toNat = 0xf4
  · rw [if_neg (by omega), if_pos hhigh, hhigh]
    exact ⟨_, _, rfl, fun n => by omega⟩
  rw [if_pos (by omega)]
  exact ⟨_, _, rfl, fun n => by omega⟩

/-- All other bytes begin no character. -/
theorem start_of_damaged (h : ¬a.toNat < 0x80) (h' : a.toNat < 0xc2 ∨ 0xf5 ≤ a.toNat) :
    start a = ([none], none) := by
  unfold start
  simp only
  rw [if_neg h]
  by_cases hlow : a.toNat < 0xc2
  · rw [if_pos hlow]
  · rw [if_neg hlow, if_neg (by omega), if_neg (by omega), if_neg (by omega), if_neg (by omega),
      if_neg (by omega), if_neg (by omega), if_neg (by omega)]

theorem decodeFrom_none_cons (a : UInt8) (rest : Bytes) :
    decodeFrom none (a :: rest) = (start a).1 ++ decodeFrom (start a).2 rest := rfl

section Unfinished

variable {bits missing low high : Nat}

theorem decodeFrom_more (hmissing : missing ≠ 1) (hb : low ≤ b.toNat ∧ b.toNat ≤ high) :
    decodeFrom (some ⟨bits, missing, low, high⟩) (b :: rest) =
      decodeFrom (some ⟨bits * 64 + (b.toNat - 0x80), missing - 1, 0x80, 0xbf⟩) rest := by
  simp only [decodeFrom, next, if_pos hb, if_neg hmissing, List.nil_append]

theorem decodeFrom_last (hb : low ≤ b.toNat ∧ b.toNat ≤ high) :
    decodeFrom (some ⟨bits, 1, low, high⟩) (b :: rest) =
      some (Char.ofNat (bits * 64 + (b.toNat - 0x80))) :: decodeFrom none rest := by
  simp only [decodeFrom, next, if_pos hb, if_true, List.singleton_append]

/-- An unfinished character goes on, unless there is damage. -/
theorem exists_of_unfinished
    (h : decodeFrom (some ⟨bits, missing, low, high⟩) bytes = cs.map some) :
    ∃ b rest, bytes = b :: rest ∧ low ≤ b.toNat ∧ b.toNat ≤ high := by
  cases bytes with
  | nil =>
    have hnone : [none] = cs.map some := h
    cases cs <;> simp at hnone
  | cons b rest =>
    by_cases hb : low ≤ b.toNat ∧ b.toNat ≤ high
    · exact ⟨b, rest, rfl, hb⟩
    · simp only [decodeFrom, next, if_neg hb, List.cons_append] at h
      cases cs <;> simp at h

end Unfinished

theorem decodeFrom_of_spells (h : Spells c bytes) (rest : Bytes) :
    decodeFrom none (bytes ++ rest) = some c :: decodeFrom none rest := by
  have hchar : c = Char.ofNat c.toNat := (Char.ofNat_toNat c).symm
  cases h with
  | one ha hc =>
    rw [List.singleton_append, decodeFrom_none_cons, start_one ha, ← hc, ← hchar]
    rfl
  | two ha ha' hb hc =>
    rw [List.cons_append, List.singleton_append, decodeFrom_none_cons, start_two ha ha',
      List.nil_append, decodeFrom_last hb, ← hc, ← hchar]
  | @three a b x ha ha' hb hlow hhigh hx hc =>
    obtain ⟨low, high, hstart, hrange⟩ := start_three ha ha'
    rw [List.cons_append, List.cons_append, List.singleton_append, decodeFrom_none_cons, hstart,
      List.nil_append, decodeFrom_more (show 2 ≠ 1 by decide) ((hrange _).2 ⟨hb, hlow, hhigh⟩),
      decodeFrom_last hx, ← hc, ← hchar]
  | @four a b x y ha ha' hb hlow hhigh hx hy hc =>
    obtain ⟨low, high, hstart, hrange⟩ := start_four ha ha'
    rw [List.cons_append, List.cons_append, List.cons_append, List.singleton_append,
      decodeFrom_none_cons, hstart, List.nil_append,
      decodeFrom_more (show 3 ≠ 1 by decide) ((hrange _).2 ⟨hb, hlow, hhigh⟩),
      decodeFrom_more (show 2 ≠ 1 by decide) hx, decodeFrom_last hy, ← hc, ← hchar]

theorem toNat_ofNat {n : Nat} (hn : n < 0xd800 ∨ (0xdfff < n ∧ n < 0x110000)) :
    (Char.ofNat n).toNat = n := by
  rw [Char.ofNat, dif_pos hn]
  rfl

theorem exists_cons_of_some {g : List Glyph} (h : some c :: g = cs.map some) :
    ∃ cs', cs = c :: cs' ∧ g = cs'.map some := by
  cases cs with
  | nil => cases h
  | cons c' cs' =>
    obtain ⟨hc, hg⟩ := List.cons.inj h
    exact ⟨cs', by rw [Option.some.inj hc], hg⟩

/-- What is read without damage begins with the bytes of a character. -/
theorem exists_spells (h : decodeFrom none (a :: rest) = cs.map some) :
    ∃ c cs' bytes rest', cs = c :: cs' ∧ a :: rest = bytes ++ rest' ∧ Spells c bytes ∧
      decodeFrom none rest' = cs'.map some := by
  rw [decodeFrom_none_cons] at h
  by_cases hone : a.toNat < 0x80
  · rw [start_one hone] at h
    obtain ⟨cs', rfl, hrest⟩ := exists_cons_of_some h
    exact ⟨_, cs', [a], rest, rfl, rfl, .one hone (toNat_ofNat (by omega)), hrest⟩
  by_cases hdamaged : a.toNat < 0xc2 ∨ 0xf5 ≤ a.toNat
  · rw [start_of_damaged hone hdamaged] at h
    cases cs <;> cases h
  by_cases htwo : a.toNat < 0xe0
  · rw [start_two (by omega) htwo, List.nil_append] at h
    obtain ⟨b, rest, rfl, hb⟩ := exists_of_unfinished h
    rw [decodeFrom_last hb] at h
    obtain ⟨cs', rfl, hrest⟩ := exists_cons_of_some h
    exact ⟨_, cs', [a, b], rest, rfl, rfl,
      .two (by omega) htwo hb (toNat_ofNat (by omega)), hrest⟩
  by_cases hthree : a.toNat < 0xf0
  · obtain ⟨low, high, hstart, hrange⟩ := start_three (by omega) hthree
    rw [hstart, List.nil_append] at h
    obtain ⟨b, rest, rfl, hb⟩ := exists_of_unfinished h
    rw [decodeFrom_more (show 2 ≠ 1 by decide) hb] at h
    obtain ⟨x, rest, rfl, hx⟩ := exists_of_unfinished h
    rw [decodeFrom_last hx] at h
    obtain ⟨cs', rfl, hrest⟩ := exists_cons_of_some h
    obtain ⟨hb, hlow, hhigh⟩ := (hrange _).1 hb
    exact ⟨_, cs', [a, b, x], rest, rfl, rfl,
      .three (by omega) hthree hb hlow hhigh hx (toNat_ofNat (by omega)), hrest⟩
  · obtain ⟨low, high, hstart, hrange⟩ := start_four (a := a) (by omega) (by omega)
    rw [hstart, List.nil_append] at h
    obtain ⟨b, rest, rfl, hb⟩ := exists_of_unfinished h
    rw [decodeFrom_more (show 3 ≠ 1 by decide) hb] at h
    obtain ⟨x, rest, rfl, hx⟩ := exists_of_unfinished h
    rw [decodeFrom_more (show 2 ≠ 1 by decide) hx] at h
    obtain ⟨y, rest, rfl, hy⟩ := exists_of_unfinished h
    rw [decodeFrom_last hy] at h
    obtain ⟨cs', rfl, hrest⟩ := exists_cons_of_some h
    obtain ⟨hb, hlow, hhigh⟩ := (hrange _).1 hb
    exact ⟨_, cs', [a, b, x, y], rest, rfl, rfl,
      .four (by omega) (by omega) hb hlow hhigh hx hy (toNat_ofNat (by omega)), hrest⟩

/-! ## Texts -/

theorem encode_ofList (cs : List Char) :
    encode (String.ofList cs) = cs.flatMap String.utf8EncodeChar := by
  rw [encode, String.toUTF8_eq_toByteArray, String.toByteArray_ofList, List.utf8Encode,
    List.toList_data_toByteArray]

theorem decode_flatMap (cs : List Char) :
    decode (cs.flatMap String.utf8EncodeChar) = cs.map some := by
  induction cs with
  | nil => rfl
  | cons c cs ih =>
    rw [List.flatMap_cons, decode, decodeFrom_of_spells (spells_utf8EncodeChar c), ← decode, ih,
      List.map_cons]

theorem eq_flatMap_of_decode (h : decode bytes = cs.map some) :
    bytes = cs.flatMap String.utf8EncodeChar := by
  induction hn : bytes.length using Nat.strongRecOn generalizing bytes cs with
  | ind n ih =>
    cases bytes with
    | nil =>
      have hnil : [] = cs.map some := h
      rw [List.map_eq_nil_iff.1 hnil.symm, List.flatMap_nil]
    | cons a rest =>
      obtain ⟨c, cs', bytes, rest', rfl, hsplit, hspells, hrest⟩ := exists_spells h
      rw [spells_iff] at hspells
      have hpos : 0 < bytes.length := by
        rw [hspells, String.length_utf8EncodeChar]
        exact c.utf8Size_pos
      have hlength := congrArg List.length hsplit
      rw [List.length_append] at hlength
      rw [hsplit, List.flatMap_cons, hspells, ih rest'.length (by omega) hrest rfl]

/-- Bytes are read as the characters of a text exactly if they are its UTF-8. -/
theorem decode_eq_iff {text : String} :
    decode bytes = text.toList.map some ↔ bytes = encode text := by
  have htext : encode text = text.toList.flatMap String.utf8EncodeChar := by
    rw [← encode_ofList, String.ofList_toList]
  rw [htext]
  exact ⟨eq_flatMap_of_decode, fun h => by rw [h, decode_flatMap]⟩

end Utf8

end CoilProbe
