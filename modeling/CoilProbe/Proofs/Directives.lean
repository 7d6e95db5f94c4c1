import CoilProbe.Journal.Filter.Parser
import Mathlib

/-!
# How filters are written

The directives of a filter stand between commas, each of them a level, a target, or a target and a
level with `=` between them. `FilterText.Spelled` says so without reading the text, and
`FilterText.parse_of_spelled` that such a text is read as the directives that it was made of, with
nothing left out and no pattern.
-/

namespace CoilProbe

/-! ## Parts of a text -/

theorem partsAt_of_notMem {separator : Char} {part : List Char} (h : separator ∉ part) :
    partsAt separator part = [part] := by
  induction part with
  | nil => rfl
  | cons c part ih =>
    obtain ⟨hc, hpart⟩ := not_or.1 (List.mem_cons.not.1 h)
    simp only [partsAt, if_neg (Ne.symm hc), ih hpart]

theorem partsAt_append {separator : Char} {part : List Char} (h : separator ∉ part)
    (rest : List Char) :
    partsAt separator (part ++ separator :: rest) = part :: partsAt separator rest := by
  induction part with
  | nil => simp only [List.nil_append, partsAt, if_true]
  | cons c part ih =>
    obtain ⟨hc, hpart⟩ := not_or.1 (List.mem_cons.not.1 h)
    simp only [List.cons_append, partsAt, if_neg (Ne.symm hc), ih hpart]

/-- Parts that do not hold the separator are found again between its places. -/
theorem partsAt_intercalate {separator : Char} {parts : List (List Char)} (hne : parts ≠ [])
    (h : ∀ part ∈ parts, separator ∉ part) :
    partsAt separator (List.intercalate [separator] parts) = parts := by
  induction parts with
  | nil => exact absurd rfl hne
  | cons part parts ih =>
    have hpart := h part List.mem_cons_self
    cases parts with
    | nil => rw [List.intercalate_singleton, partsAt_of_notMem hpart]
    | cons next later =>
      have hlater := ih (List.cons_ne_nil next later) fun p hp => h p (List.mem_cons_of_mem _ hp)
      rw [List.intercalate_cons_cons, List.append_assoc, List.singleton_append,
        partsAt_append hpart, hlater]

theorem notMem_intercalate {c separator : Char} {parts : List (List Char)} (hc : c ≠ separator)
    (h : ∀ part ∈ parts, c ∉ part) : c ∉ List.intercalate [separator] parts := by
  induction parts with
  | nil => exact List.not_mem_nil
  | cons part parts ih =>
    have hpart := h part List.mem_cons_self
    cases parts with
    | nil => rwa [List.intercalate_singleton]
    | cons next later =>
      have hlater := ih fun p hp => h p (List.mem_cons_of_mem _ hp)
      rw [List.intercalate_cons_cons, List.mem_append, List.mem_append, List.mem_singleton]
      tauto

/-! ## Words -/

/-- A text that is still the same after it has been separated from others and trimmed. -/
structure Solid (text : List Char) : Prop where
  /-- It is not empty. -/
  nonempty : text ≠ []
  /-- It holds no comma, which would separate it. -/
  no_comma : ',' ∉ text
  /-- It holds no slash, which would end the directives. -/
  no_slash : '/' ∉ text
  /-- It begins with no blank. -/
  firm_head : ∀ c ∈ text.head?, isBlank c = false
  /-- It ends with no blank. -/
  firm_last : ∀ c ∈ text.getLast?, isBlank c = false

theorem trimStart_of_firm {text : List Char} (h : ∀ c ∈ text.head?, isBlank c = false) :
    trimStart text = text := by
  cases text with
  | nil => rfl
  | cons c text => rw [trimStart, List.dropWhile_cons_of_neg (by rw [h c rfl]; exact nofun)]

theorem Solid.trim {text : List Char} (h : Solid text) : trim text = text := by
  have hlast : ∀ c ∈ text.reverse.head?, isBlank c = false := by
    rw [List.head?_reverse]
    exact h.firm_last
  rw [CoilProbe.trim, trimStart_of_firm h.firm_head, trimEnd, trimStart_of_firm hlast,
    List.reverse_reverse]

/-- The word for a threshold. -/
def Threshold.word : Threshold → String
  | none => "off"
  | some .error => "error"
  | some .warn => "warn"
  | some .info => "info"
  | some .debug => "debug"
  | some .trace => "trace"

/-- A name is the word for a threshold, in either case. -/
def Threshold.Spelled (t : Threshold) (name : List Char) : Prop :=
  name.map Char.toLower = t.word.toList

namespace Threshold

variable {t : Threshold} {name : List Char}

theorem ofName?_of_spelled (h : t.Spelled name) : ofName? name = some t := by
  rw [ofName?, h]
  rcases t with _ | _ | _ | _ | _ | _ <;> rfl

theorem spelled_of_ofName? (h : ofName? name = some t) : t.Spelled name := by
  have hword : String.ofList (name.map Char.toLower) = t.word := by
    unfold ofName? at h
    split at h <;> cases h <;> assumption
  rw [Spelled, ← hword, String.toList_ofList]

theorem ofName?_of_not_spelled (h : ∀ t : Threshold, ¬t.Spelled name) : ofName? name = none :=
  Option.eq_none_iff_forall_ne_some.2 fun t ht => h t (spelled_of_ofName? ht)

/-- The words are made of letters. -/
theorem isAlpha_of_spelled (h : t.Spelled name) {c : Char} (hc : c ∈ name) :
    c.isAlpha = true := by
  have hword : t.word.toList.all Char.isLower = true := by
    rcases t with _ | _ | _ | _ | _ | _ <;> decide
  have hlower := List.all_eq_true.1 hword c.toLower (h ▸ List.mem_map_of_mem hc)
  rwa [Char.isLower_toLower_eq_isAlpha] at hlower

theorem notMem_of_spelled (h : t.Spelled name) {c : Char} (hc : ¬c.isAlpha = true) : c ∉ name :=
  fun hmem => hc (isAlpha_of_spelled h hmem)

theorem not_isBlank_of_isAlpha {c : Char} (h : c.isAlpha = true) : isBlank c = false := by
  have hrange : (65 ≤ c.toNat ∧ c.toNat ≤ 90) ∨ (97 ≤ c.toNat ∧ c.toNat ≤ 122) := by
    simpa [Char.isAlpha, Char.isUpper, Char.isLower, UInt32.le_iff_toNat_le] using h
  simp only [isBlank, Bool.or_eq_false_iff, Bool.and_eq_false_iff, decide_eq_false_iff_not,
    beq_eq_false_iff_ne]
  omega

theorem solid_of_spelled (h : t.Spelled name) : Solid name where
  nonempty := by
    rintro rfl
    rcases t with _ | _ | _ | _ | _ | _ <;> cases h
  no_comma := notMem_of_spelled h (by decide)
  no_slash := notMem_of_spelled h (by decide)
  firm_head := fun c hc =>
    not_isBlank_of_isAlpha (isAlpha_of_spelled h (List.mem_of_mem_head? hc))
  firm_last := fun c hc =>
    not_isBlank_of_isAlpha (isAlpha_of_spelled h (List.mem_of_mem_getLast? hc))

end Threshold

/-! ## Directives -/

/-- How a directive is written. -/
inductive Directive.Spelled : Directive → List Char → Prop
  /-- A level stands for all components. -/
  | level {t : Threshold} {name : List Char} (hname : t.Spelled name) : Spelled ⟨none, t⟩ name
  /-- A target that is no level lets everything through. -/
  | target {target : List Char} (hsolid : Solid target) (hplain : '=' ∉ target)
      (hlevel : ∀ t : Threshold, ¬t.Spelled target) : Spelled ⟨some target, some .trace⟩ target
  /-- A target may have its own level. -/
  | both {target name : List Char} {t : Threshold} (hsolid : Solid target) (hplain : '=' ∉ target)
      (hname : t.Spelled name) : Spelled ⟨some target, t⟩ (target ++ '=' :: name)

/-- How the directives of a filter are written: with commas between them. -/
def FilterText.Spelled (directives : List Directive) (text : List Char) : Prop :=
  ∃ parts, List.Forall₂ Directive.Spelled directives parts ∧ text = List.intercalate [','] parts

namespace Directive

variable {d : Directive} {text : List Char}

theorem solid_of_spelled (h : d.Spelled text) : Solid text := by
  cases h with
  | level hname => exact Threshold.solid_of_spelled hname
  | target hsolid => exact hsolid
  | @both target name t hsolid hplain hname =>
    have hlast := Threshold.solid_of_spelled hname
    have hhead : (target ++ '=' :: name).head? = target.head? :=
      List.head?_append_of_ne_nil target hsolid.nonempty
    have hend : (target ++ '=' :: name).getLast? = name.getLast? := by
      rw [List.getLast?_append_of_ne_nil target (List.cons_ne_nil _ _),
        List.getLast?_cons_of_ne_nil hlast.nonempty]
    refine ⟨?_, ?_, ?_, ?_, ?_⟩
    · exact List.append_ne_nil_of_left_ne_nil hsolid.nonempty _
    · simp [hsolid.no_comma, hlast.no_comma]
    · simp [hsolid.no_slash, hlast.no_slash]
    · rw [hhead]
      exact hsolid.firm_head
    · rw [hend]
      exact hlast.firm_last

theorem parse_of_spelled (h : d.Spelled text) : parse text = .ok d := by
  cases h with
  | level hname =>
    have hplain : '=' ∉ text := Threshold.notMem_of_spelled hname (by decide)
    simp only [parse, partsAt_of_notMem hplain, Threshold.ofName?_of_spelled hname]
  | target hsolid hplain hlevel =>
    simp only [parse, partsAt_of_notMem hplain, Threshold.ofName?_of_not_spelled hlevel]
  | @both target name t hsolid hplain hname =>
    have hrest : '=' ∉ name := Threshold.notMem_of_spelled hname (by decide)
    have hsolid' := Threshold.solid_of_spelled hname
    simp only [parse, partsAt_append hplain, partsAt_of_notMem hrest, hsolid'.trim,
      if_neg hsolid'.nonempty, Threshold.ofName?_of_spelled hname]

end Directive

namespace FilterText

/-- The parts between the commas are the directives. -/
theorem parts_of_solid {parts : List (List Char)} (h : ∀ part ∈ parts, Solid part) :
    ((partsAt ',' (List.intercalate [','] parts)).map trim).filter (fun part => !part.isEmpty) =
      parts := by
  cases parts with
  | nil => rfl
  | cons part parts =>
    rw [partsAt_intercalate (List.cons_ne_nil part parts) fun p hp => (h p hp).no_comma,
      List.map_congr_left fun p hp => (h p hp).trim, List.map_id', List.filter_eq_self]
    intro p hp
    rw [List.isEmpty_eq_false_iff.2 (h p hp).nonempty, Bool.not_false]

/-- Directives that are read one by one add up. -/
theorem foldr_add_of_spelled {directives : List Directive} {parts : List (List Char)}
    (h : List.Forall₂ Directive.Spelled directives parts) :
    parts.foldr (fun part t => t.add (Directive.parse part)) {} =
      ({ directives } : FilterText) := by
  induction h with
  | nil => rfl
  | cons hd htail ih => rw [List.foldr_cons, ih, Directive.parse_of_spelled hd, add]

theorem parse_of_spelled {directives : List Directive} {text : List Char}
    (h : Spelled directives text) : parse text = { directives } := by
  obtain ⟨parts, hparts, rfl⟩ := h
  have hsolid : ∀ part ∈ parts, Solid part := by
    induction hparts with
    | nil => exact List.forall_mem_nil _
    | cons hd htail ih => exact List.forall_mem_cons.2 ⟨Directive.solid_of_spelled hd, ih⟩
  have hslash : '/' ∉ List.intercalate [','] parts :=
    notMem_intercalate (by decide) fun part hpart => (hsolid part hpart).no_slash
  simp only [parse, partsAt_of_notMem hslash]
  rw [ofDirectives, parts_of_solid hsolid, foldr_add_of_spelled hparts]

end FilterText

end CoilProbe
