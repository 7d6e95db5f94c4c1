import CoilProbe.Net.Address.Parser
import CoilProbe.Net.Address.Printer
import Mathlib.Algebra.Group.Nat.Defs
import Mathlib.Data.List.TakeWhile
import Mathlib.Tactic.Common

/-!
# The text of an address is read as that address

A number is read back from its digits if no further digit follows. Groups in a row are read back up
to the end of the text or to `::`, where no reader goes on. What is left are the three forms in
which an IPv6 address is written: with a mapped IPv4 address, with a run of zero groups as `::`, and
with all its groups.
-/

namespace CoilProbe

/-! ## Digits -/

/-- No digit stands at the head of a text. -/
def NoDigit (digit? : Char → Option Nat) (rest : List Char) : Prop :=
  ∀ c ∈ rest.head?, digit? c = none

section Digits

variable {digit? : Char → Option Nat} {cs rest : List Char} {ds : List Nat}

theorem noDigit_nil : NoDigit digit? [] := by
  intro c hc
  cases hc

theorem noDigit_cons {c : Char} (h : digit? c = none) : NoDigit digit? (c :: cs) := by
  intro c' hc'
  cases hc'
  exact h

theorem digitRun_of_noDigit (h : NoDigit digit? rest) : digitRun digit? rest = ([], rest) := by
  cases rest with
  | nil => rfl
  | cons c rest =>
    have hc := h c rfl
    rw [digitRun, hc]

theorem digitRun_append (hcs : cs.map digit? = ds.map some) (hrest : NoDigit digit? rest) :
    digitRun digit? (cs ++ rest) = (ds, rest) := by
  induction cs generalizing ds with
  | nil =>
    obtain rfl : ds = [] := List.map_eq_nil_iff.1 hcs.symm
    exact digitRun_of_noDigit hrest
  | cons c cs ih =>
    cases ds with
    | nil => cases hcs
    | cons d ds =>
      rw [List.map_cons, List.map_cons, List.cons.injEq] at hcs
      rw [List.cons_append, digitRun, hcs.1, ih hcs.2]

theorem ofDigits_append (b : Nat) (ds : List Nat) (d : Nat) :
    ofDigits b (ds ++ [d]) = ofDigits b ds * b + d := by
  rw [ofDigits, List.foldl_append]
  rfl

/-- Nothing or a colon stands at the head of a text. -/
def AtColon (rest : List Char) : Prop := ∀ c ∈ rest.head?, c = ':'

theorem atColon_nil : AtColon [] := by
  intro c hc
  cases hc

theorem atColon_cons (cs : List Char) : AtColon (':' :: cs) := by
  intro c hc
  cases hc
  rfl

theorem AtColon.noDigit (h : AtColon rest) (hcolon : digit? ':' = none) :
    NoDigit digit? rest := by
  intro c hc
  rw [h c hc]
  exact hcolon

/-- The values of the digits of a number: together they are the number, and the first one is zero
for the number zero only. -/
theorem exists_digits {b : Nat} (hb : 1 < b) (hdigit : ∀ d < b, digit? d.digitChar = some d)
    (n : Nat) :
    ∃ ds, (Nat.toDigits b n).map digit? = ds.map some ∧ ofDigits b ds = n ∧
      (ds.head? = some 0 → n = 0) := by
  induction n using Nat.strongRecOn with
  | _ n ih =>
    rw [Nat.toDigits_eq_if hb]
    by_cases hn : n < b
    · refine ⟨[n], ?_, ?_, ?_⟩
      · rw [if_pos hn, List.map_singleton, hdigit n hn]
        rfl
      · simp [ofDigits]
      · simp
    · -- The last digit comes off, and the digits of `n / b` stand before it.
      have hpos : 0 < n / b := Nat.div_pos (Nat.le_of_not_lt hn) (by omega)
      have hlast := hdigit (n % b) (Nat.mod_lt n (by omega))
      obtain ⟨ds, hds, hvalue, hzero⟩ := ih (n / b) (Nat.div_lt_self (by omega) hb)
      refine ⟨ds ++ [n % b], ?_, ?_, ?_⟩
      · rw [if_neg hn, List.map_append, List.map_append, hds, List.map_singleton, hlast]
        rfl
      · rw [ofDigits_append, hvalue, Nat.div_add_mod']
      · intro hhead
        cases ds with
        | nil =>
          exact absurd (List.map_eq_nil_iff.1 hds) Nat.toDigits_ne_nil
        | cons d ds =>
          have := hzero hhead
          omega

/-- A number below a power of the base has no more digits than its exponent says. -/
theorem length_digits {b n k : Nat} (hb : 1 < b) (hk : 0 < k) (hn : n < b ^ k)
    (hds : (Nat.toDigits b n).map digit? = ds.map some) :
    0 < ds.length ∧ ds.length ≤ k := by
  have hlength : (Nat.toDigits b n).length = ds.length := by
    simpa only [List.length_map] using congrArg List.length hds
  rw [← hlength, Nat.length_toDigits_le_iff hb hk]
  exact ⟨Nat.length_toDigits_pos, hn⟩

end Digits

theorem decimalDigit?_digitChar : ∀ d < 10, decimalDigit? d.digitChar = some d := by decide

theorem hexDigit?_digitChar : ∀ d < 16, hexDigit? d.digitChar = some d := by decide

theorem readByte_decimal (x : UInt8) {rest : List Char} (hrest : NoDigit decimalDigit? rest) :
    readByte (decimal x.toNat ++ rest) = some (x, rest) := by
  obtain ⟨ds, hds, hvalue, hzero⟩ := exists_digits (by omega) decimalDigit?_digitChar x.toNat
  have hlt := x.toNat_lt
  have hthree : x.toNat < 10 ^ 3 := by omega
  obtain ⟨hpos, hshort⟩ := length_digits (by omega) (by omega) hthree hds
  have hplain : ¬(1 < ds.length ∧ ds.head? = some 0) := by
    rintro ⟨hlong, hhead⟩
    have hone : x.toNat < 10 ^ 1 := by
      rw [hzero hhead]
      omega
    obtain ⟨-, hsingle⟩ := length_digits (by omega) (by omega) hone hds
    omega
  have hread : ¬(ds = [] ∨ 3 < ds.length ∨ (1 < ds.length ∧ ds.head? = some 0) ∨
      255 < ofDigits 10 ds) := by
    rw [← List.length_eq_zero_iff, hvalue]
    rintro (hnone | hlong | hzeros | hlarge)
    · omega
    · omega
    · exact hplain hzeros
    · omega
  rw [readByte, decimal, digitRun_append hds hrest]
  simp only
  rw [if_neg hread, hvalue, UInt8.ofNat_toNat]

theorem readGroup_hex (g : UInt16) {rest : List Char} (hrest : NoDigit hexDigit? rest) :
    readGroup (hex g.toNat ++ rest) = some (g, rest) := by
  obtain ⟨ds, hds, hvalue, -⟩ := exists_digits (by omega) hexDigit?_digitChar g.toNat
  have hlt := g.toNat_lt
  have hfour : g.toNat < 16 ^ 4 := by omega
  obtain ⟨hpos, hshort⟩ := length_digits (by omega) (by omega) hfour hds
  have hread : ¬(ds = [] ∨ 4 < ds.length) := by
    rw [← List.length_eq_zero_iff]
    omega
  rw [readGroup, hex, digitRun_append hds hrest]
  simp only
  rw [if_neg hread, hvalue, UInt16.ofNat_toNat]

/-! ## IPv4 addresses -/

theorem readIPv4_text (ip : IPv4) {rest : List Char} (hrest : NoDigit decimalDigit? rest) :
    readIPv4 (ip.text ++ rest) = some (ip, rest) := by
  have hpoint {cs : List Char} : NoDigit decimalDigit? ('.' :: cs) := noDigit_cons (by decide)
  have hafter (x : UInt8) {cs : List Char} (hcs : NoDigit decimalDigit? cs) :
      after '.' readByte ('.' :: (decimal x.toNat ++ cs)) = some (x, cs) := by
    rw [after, if_pos rfl, readByte_decimal x hcs]
  simp only [readIPv4, IPv4.text, List.append_assoc, List.cons_append]
  simp only [readByte_decimal _ hpoint, hafter _ hpoint, hafter _ hrest, Option.bind_eq_bind,
    Option.bind_some]
  rfl

theorem readByte_rest {cs rest : List Char} {a : UInt8} (h : readByte cs = some (a, rest)) :
    rest = (digitRun decimalDigit? cs).2 := by
  unfold readByte at h
  simp only at h
  split at h
  · cases h
  · cases h
    rfl

/-- A text in which a colon or the end comes before any point is no IPv4 address. -/
theorem readIPv4_eq_none {cs rest : List Char} (hcs : '.' ∉ cs) (hrest : AtColon rest) :
    readIPv4 (cs ++ rest) = none := by
  have hstop : (digitRun decimalDigit? (cs ++ rest)).2.head? ≠ some '.' := by
    induction cs with
    | nil =>
      rw [List.nil_append, digitRun_of_noDigit (hrest.noDigit rfl)]
      intro hpoint
      exact absurd (hrest '.' hpoint) (by decide)
    | cons c cs ih =>
      rw [List.mem_cons, not_or] at hcs
      rw [List.cons_append, digitRun]
      cases decimalDigit? c with
      | some d => exact ih hcs.2
      | none =>
        intro hpoint
        cases hpoint
        exact hcs.1 rfl
  have hafter {cs : List Char} (h : cs.head? ≠ some '.') : after '.' readByte cs = none := by
    cases cs with
    | nil => rfl
    | cons c cs =>
      have hc : c ≠ '.' := by
        rintro rfl
        exact h rfl
      rw [after, if_neg hc]
  rw [readIPv4]
  cases hbyte : readByte (cs ++ rest) with
  | none => rfl
  | some found =>
    obtain ⟨a, cs'⟩ := found
    rw [← readByte_rest hbyte] at hstop
    simp only [Option.bind_eq_bind, Option.bind_some, hafter hstop, Option.bind_none]

/-! ## Groups in a row -/

/-- The text of groups, of which the first one may have a colon before it as the others have. -/
def rowText : (first : Bool) → List UInt16 → List Char
  | _, [] => []
  | first, g :: gs => (if first then [] else [':']) ++ hex g.toNat ++ rowText false gs

theorem groupsText_eq (gs : List UInt16) : groupsText gs = rowText true gs := by
  induction gs with
  | nil => rfl
  | cons g gs ih =>
    cases gs with
    | nil => simp [groupsText, rowText, List.intercalate]
    | cons h gs =>
      have hrest : List.intercalate [':'] (hex h.toNat :: gs.map fun g => hex g.toNat) =
          rowText true (h :: gs) := ih
      rw [groupsText, List.map_cons, List.map_cons, List.intercalate_cons_cons, hrest]
      simp [rowText]

theorem point_notMem_hex (n : Nat) : '.' ∉ hex n := by
  obtain ⟨ds, hds, -⟩ := exists_digits (by omega) hexDigit?_digitChar n
  intro hmem
  have hnone : (none : Option Nat) ∈ ds.map some := by
    rw [← hds]
    exact List.mem_map_of_mem hmem
  simp at hnone

theorem point_notMem_rowText (first : Bool) (gs : List UInt16) : '.' ∉ rowText first gs := by
  induction gs generalizing first with
  | nil => exact List.not_mem_nil
  | cons g gs ih =>
    cases first <;> simp [rowText, point_notMem_hex, ih]

/-- What may follow a row of groups that is to end there. -/
def EndsRow (rest : List Char) : Prop := rest = [] ∨ ∃ more, rest = ':' :: ':' :: more

/-- A reader with what stands before each of some groups in a row. -/
def led {α : Type} (first : Bool) (read : Reader α) : Reader α :=
  if first then read else after ':' read

theorem readGroups_succ (room : Nat) (first : Bool) (cs : List Char) :
    readGroups (room + 1) first cs =
      match (if 0 < room then led first readIPv4 cs else none) with
      | some (ip, rest) => ⟨ip.groups, true, rest⟩
      | none =>
        match led first readGroup cs with
        | some (g, rest) => { readGroups room false rest with
            groups := g :: (readGroups room false rest).groups }
        | none => ⟨[], false, cs⟩ := rfl

theorem EndsRow.atColon {rest : List Char} (h : EndsRow rest) : AtColon rest := by
  rcases h with rfl | ⟨more, rfl⟩
  · exact atColon_nil
  · exact atColon_cons _

theorem EndsRow.led_eq_none {α : Type} {read : Reader α} {rest : List Char} (h : EndsRow rest)
    (hread : ∀ rest, AtColon rest → read rest = none) (first : Bool) :
    led first read rest = none := by
  cases first with
  | true => exact hread rest h.atColon
  | false =>
    rcases h with rfl | ⟨more, rfl⟩
    · rfl
    · exact hread (':' :: more) (atColon_cons more)

theorem readGroup_eq_none {rest : List Char} (h : AtColon rest) : readGroup rest = none := by
  rw [readGroup, digitRun_of_noDigit (h.noDigit rfl)]
  rfl

/-- Where a row of groups ends, no more of them are read. -/
theorem readGroups_of_endsRow {rest : List Char} (h : EndsRow rest) (room : Nat) (first : Bool) :
    readGroups room first rest = ⟨[], false, rest⟩ := by
  cases room with
  | zero => rfl
  | succ room =>
    have hip : led first readIPv4 rest = none :=
      h.led_eq_none (fun rest hrest => readIPv4_eq_none List.not_mem_nil hrest) first
    have hgroup : led first readGroup rest = none :=
      h.led_eq_none (fun rest hrest => readGroup_eq_none hrest) first
    rw [readGroups_succ, hip, hgroup, ite_self]

/-- A group is read unless an IPv4 address can be. -/
theorem readGroups_of_group {room : Nat} {first : Bool} {cs rest : List Char} {g : UInt16}
    (hip : led first readIPv4 cs = none) (hgroup : led first readGroup cs = some (g, rest)) :
    readGroups (room + 1) first cs =
      { readGroups room false rest with groups := g :: (readGroups room false rest).groups } := by
  rw [readGroups_succ, hip, hgroup, ite_self]

theorem readGroups_of_ipv4 {room : Nat} {first : Bool} {cs rest : List Char} {ip : IPv4}
    (hroom : 0 < room) (hip : led first readIPv4 cs = some (ip, rest)) :
    readGroups (room + 1) first cs = ⟨ip.groups, true, rest⟩ := by
  rw [readGroups_succ, if_pos hroom, hip]

/-- What comes after a group is not read with it. -/
theorem atColon_rowText (gs : List UInt16) {rest : List Char} (h : EndsRow rest) :
    AtColon (rowText false gs ++ rest) := by
  cases gs with
  | nil => exact h.atColon
  | cons g gs => exact atColon_cons _

theorem readGroups_rowText {gs : List UInt16} {room : Nat} (hroom : gs.length ≤ room)
    (first : Bool) {rest : List Char} (h : EndsRow rest) :
    readGroups room first (rowText first gs ++ rest) = ⟨gs, false, rest⟩ := by
  induction gs generalizing room first with
  | nil => exact readGroups_of_endsRow h room first
  | cons g gs ih =>
    have hlater := atColon_rowText gs h
    have hled {α : Type} (read : Reader α) : led first read (rowText first (g :: gs) ++ rest) =
        read (hex g.toNat ++ (rowText false gs ++ rest)) := by
      cases first <;> simp [led, rowText, after]
    have hip := (hled readIPv4).trans (readIPv4_eq_none (point_notMem_hex g.toNat) hlater)
    have hgroup := (hled readGroup).trans (readGroup_hex g (hlater.noDigit rfl))
    obtain ⟨room, rfl⟩ : ∃ r, room = r + 1 := by
      rw [List.length_cons] at hroom
      exact ⟨room - 1, by omega⟩
    rw [readGroups_of_group hip hgroup, ih (by simpa using hroom)]

/-! ## IPv6 addresses -/

/-- A longest run of zero groups lies within the groups, and consists of zeros. -/
theorem longestZeroRun_spec (gs : List UInt16) :
    (longestZeroRun gs).1 + (longestZeroRun gs).2 ≤ gs.length ∧
      gs.take (longestZeroRun gs).1 ++ List.replicate (longestZeroRun gs).2 0 ++
        gs.drop ((longestZeroRun gs).1 + (longestZeroRun gs).2) = gs := by
  induction gs with
  | nil => exact ⟨Nat.le_refl 0, rfl⟩
  | cons g gs ih =>
    obtain ⟨hle, hgs⟩ := ih
    rw [longestZeroRun]
    by_cases hlonger : ((g :: gs).takeWhile (· == 0)).length < (longestZeroRun gs).2
    · -- A run further on is longer than the one that begins here.
      simp only [if_pos hlonger, List.length_cons, List.take_succ_cons, List.cons_append]
      refine ⟨by omega, ?_⟩
      rw [Nat.add_right_comm, List.drop_succ_cons, hgs]
    · -- The run that begins here is as long as any.
      simp only [if_neg hlonger, List.take_zero, List.nil_append, Nat.zero_add]
      have hbegins : (g :: gs).takeWhile (· == 0) <+: g :: gs := List.takeWhile_prefix _
      have hzeros : (g :: gs).takeWhile (· == 0) =
          List.replicate ((g :: gs).takeWhile (· == 0)).length 0 :=
        List.eq_replicate_of_mem fun h hh => by simpa using List.mem_takeWhile_imp hh
      refine ⟨hbegins.length_le, ?_⟩
      rw [← hzeros]
      exact List.prefix_iff_eq_append.1 hbegins

theorem ofGroups?_groups (ip : IPv6) : IPv6.ofGroups? ip.groups = some ip := by
  rw [IPv6.ofGroups?, dif_pos ip.size]

/-- An address is read from all its groups. -/
theorem readIPv6_groupsText (ip : IPv6) : readIPv6 (groupsText ip.groups) = some (ip, []) := by
  have hhead : readGroups 8 true (groupsText ip.groups) = ⟨ip.groups, false, []⟩ := by
    have h := readGroups_rowText (Nat.le_of_eq ip.size) true (.inl rfl)
    rwa [List.append_nil, ← groupsText_eq] at h
  rw [readIPv6, hhead]
  simp only
  rw [if_pos ip.size, ofGroups?_groups]
  rfl

/-- An address is read from its groups before and after a run of zeros. -/
theorem readIPv6_around (ip : IPv6) {before later : List UInt16} {size : Nat} (hsize : 0 < size)
    (hgroups : before ++ List.replicate size 0 ++ later = ip.groups) :
    readIPv6 (groupsText before ++ ':' :: ':' :: groupsText later) = some (ip, []) := by
  have hlength := congrArg List.length hgroups
  rw [ip.size, List.length_append, List.length_append, List.length_replicate] at hlength
  have hhead : readGroups 8 true (groupsText before ++ ':' :: ':' :: groupsText later) =
      ⟨before, false, ':' :: ':' :: groupsText later⟩ := by
    rw [groupsText_eq before]
    exact readGroups_rowText (by omega) true (.inr ⟨_, rfl⟩)
  have htail : readGroups (7 - before.length) true (groupsText later) = ⟨later, false, []⟩ := by
    have hroom : later.length ≤ 7 - before.length := by omega
    have h := readGroups_rowText hroom true (.inl rfl)
    rwa [List.append_nil, ← groupsText_eq] at h
  have hgap : 8 - before.length - later.length = size := by omega
  rw [readIPv6, hhead]
  simp only
  rw [if_neg (by omega), if_neg Bool.false_ne_true, htail]
  simp only
  rw [hgap, hgroups, ofGroups?_groups]
  rfl

/-- A mapped address is read from the IPv4 address in it. -/
theorem readIPv6_mapped {ip : IPv6} {inner : IPv4} (h : ip.mapped? = some inner) :
    readIPv6 ("::ffff:".toList ++ inner.text) = some (ip, []) := by
  have hgroups : [0, 0, 0, 0, 0, 0xffff] ++ inner.groups = ip.groups := by
    unfold IPv6.mapped? at h
    split at h
    · next hi lo heq =>
      cases h
      rw [heq, IPv4.groups, word_wordBytes, word_wordBytes]
      rfl
    · cases h
  have hmark : hex (0xffff : UInt16).toNat = ['f', 'f', 'f', 'f'] := by decide
  have htext : "::ffff:".toList ++ inner.text =
      ':' :: ':' :: (hex (0xffff : UInt16).toNat ++ ':' :: inner.text) := by
    rw [hmark]
    rfl
  -- Nothing stands before the colons, and after them the mark and then the IPv4 address.
  have hhead : readGroups 8 true ("::ffff:".toList ++ inner.text) =
      ⟨[], false, "::ffff:".toList ++ inner.text⟩ :=
    readGroups_of_endsRow (.inr ⟨_, htext⟩) 8 true
  have hinner : readGroups 6 false (':' :: inner.text) = ⟨inner.groups, true, []⟩ := by
    have hread := readIPv4_text inner noDigit_nil
    rw [List.append_nil] at hread
    exact readGroups_of_ipv4 (by omega) hread
  have htail : readGroups 7 true (hex (0xffff : UInt16).toNat ++ ':' :: inner.text) =
      ⟨0xffff :: inner.groups, true, []⟩ := by
    have hip : led true readIPv4 (hex (0xffff : UInt16).toNat ++ ':' :: inner.text) = none :=
      readIPv4_eq_none (point_notMem_hex _) (atColon_cons _)
    have hstop : NoDigit hexDigit? (':' :: inner.text) := (atColon_cons _).noDigit rfl
    have hgroup : led true readGroup (hex (0xffff : UInt16).toNat ++ ':' :: inner.text) =
        some (0xffff, ':' :: inner.text) :=
      readGroup_hex 0xffff hstop
    rw [readGroups_of_group hip hgroup, hinner]
  rw [readIPv6, hhead, htext]
  simp only [List.length_nil, Nat.sub_zero]
  rw [if_neg (by decide), if_neg Bool.false_ne_true, htail]
  simp only
  have hparts : [] ++ List.replicate (8 - (0xffff :: inner.groups).length) 0 ++
      0xffff :: inner.groups = ip.groups := hgroups
  rw [hparts, ofGroups?_groups]
  rfl

theorem readIPv6_text (ip : IPv6) : readIPv6 ip.text = some (ip, []) := by
  rw [IPv6.text]
  cases hmapped : ip.mapped? with
  | some inner => exact readIPv6_mapped hmapped
  | none =>
    obtain ⟨-, hgroups⟩ := longestZeroRun_spec ip.groups
    simp only
    by_cases hrun : 1 < (longestZeroRun ip.groups).2
    · rw [if_pos hrun]
      exact readIPv6_around ip (by omega) hgroups
    · rw [if_neg hrun]
      exact readIPv6_groupsText ip

/-- The text of an IPv6 address is not one of an IPv4 address. -/
theorem readIPv4_text6 (ip : IPv6) : readIPv4 ip.text = none := by
  have hplain {cs : List Char} (h : '.' ∉ cs) : readIPv4 cs = none := by
    have hread : readIPv4 (cs ++ []) = none := readIPv4_eq_none h atColon_nil
    rwa [List.append_nil] at hread
  have hrow (gs : List UInt16) : '.' ∉ groupsText gs := by
    rw [groupsText_eq]
    exact point_notMem_rowText true gs
  rw [IPv6.text]
  cases hmapped : ip.mapped? with
  | some inner =>
    have hcolon : AtColon ("::ffff:".toList ++ inner.text) := atColon_cons _
    have hread : readIPv4 ([] ++ ("::ffff:".toList ++ inner.text)) = none :=
      readIPv4_eq_none List.not_mem_nil hcolon
    exact hread
  | none =>
    simp only
    by_cases hrun : 1 < (longestZeroRun ip.groups).2
    · rw [if_pos hrun]
      refine hplain ?_
      simp [hrow]
    · rw [if_neg hrun]
      exact hplain (hrow ip.groups)

/-! ## Addresses -/

/-- The canonical text of an address is a text of that address. -/
theorem IPAddress.parse?_text (a : IPAddress) :
    IPAddress.parse? (String.ofList a.text) = some a := by
  rw [parse?, String.toList_ofList, ofChars?]
  cases a with
  | v4 ip =>
    have hread := readIPv4_text ip noDigit_nil
    rw [List.append_nil] at hread
    have hwhole : wholly readIPv4 (IPAddress.v4 ip).text = some ip := by
      rw [wholly, IPAddress.text, hread]
    rw [hwhole]
  | v6 ip =>
    have hno : wholly readIPv4 (IPAddress.v6 ip).text = none := by
      rw [wholly, IPAddress.text, readIPv4_text6]
    have hwhole : wholly readIPv6 (IPAddress.v6 ip).text = some ip := by
      rw [wholly, IPAddress.text, readIPv6_text]
    rw [hno, hwhole]
    rfl

end CoilProbe
