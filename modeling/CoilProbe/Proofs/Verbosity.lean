import CoilProbe.Proofs.Programs

/-!
# Showing more of the journal

The option to show more changes the threshold for all that the environment says nothing about. Since
no directive is read differently, the directive that decides about a component has the same target
either way, and lets through no less: `Filter.Wider`. All else about an exit is made without the
filter, so `diagnostics_change_nothing`.
-/

open Relator

namespace CoilProbe

/-! ## Wider filters -/

/-- A directive with the same target that lets through no less. -/
structure Directive.Wider (d d' : Directive) : Prop where
  target : d.target = d'.target
  admits : ∀ l, d.threshold.admits l = true → d'.threshold.admits l = true

/-- A filter that lets through no less. -/
def Filter.Wider (f f' : Filter) : Prop := ∀ e, f.admits e = true → f'.admits e = true

namespace Directive

variable {d d' e e' : Directive} {ds ds' : List Directive}

theorem Wider.refl (d : Directive) : d.Wider d := ⟨rfl, fun _ h => h⟩

theorem wider_put (h : d.Wider d') (hs : List.Forall₂ Wider ds ds') :
    List.Forall₂ Wider (d.put ds) (d'.put ds') := by
  induction hs with
  | nil => exact .cons h .nil
  | @cons e e' rest rest' he hrest ih =>
    rw [put, put, ← he.target, ← h.target]
    by_cases hsame : e.target = d.target
    · rw [if_pos hsame, if_pos hsame]
      exact .cons h hrest
    · rw [if_neg hsame, if_neg hsame]
      exact .cons he ih

theorem Wider.covers_eq (h : d.Wider d') (name : List Char) : d.covers name = d'.covers name := by
  rw [covers, covers, h.target]

theorem wider_better {best best' : Option Directive} (hbest : Option.Rel Wider best best')
    (h : d.Wider d') : Option.Rel Wider (better best d) (better best' d') := by
  cases hbest with
  | none => exact .some h
  | @some b b' hb =>
    rw [better, better, reach, reach, reach, reach, ← hb.target, ← h.target]
    split
    · exact .some h
    · exact .some hb

theorem wider_deciding (hs : List.Forall₂ Wider ds ds') (name : List Char) :
    Option.Rel Wider (deciding ds name) (deciding ds' name) := by
  have hcover : List.Forall₂ Wider (ds.filter (·.covers name)) (ds'.filter (·.covers name)) :=
    List.rel_filter (fun d d' h => iff_of_eq (congrArg (· = true) (h.covers_eq name))) hs
  have hstep : (Option.Rel Wider ⇒ Wider ⇒ Option.Rel Wider) better better :=
    fun _ _ hbest _ _ h => wider_better hbest h
  exact List.rel_foldl hstep .none hcover

end Directive

namespace Filter

variable {f f' : Filter}

theorem wider_of_directives (hs : List.Forall₂ Directive.Wider f.directives f'.directives)
    (hpattern : f.pattern = f'.pattern) : f.Wider f' := by
  intro e he
  rw [admits, Bool.and_eq_true] at he ⊢
  refine ⟨?_, ?_⟩
  · have hlevel := he.1
    rw [admitsLevel] at hlevel ⊢
    generalize Directive.deciding f.directives e.component.name.toList = best,
      Directive.deciding f'.directives e.component.name.toList = best',
      Directive.wider_deciding hs e.component.name.toList = hbest at hlevel
    cases hbest with
    | none => exact hlevel
    | some hb => exact hb.admits _ hlevel
  · rw [admitsMessage, ← hpattern]
    exact he.2

/-- A base that lets through no less makes a wider filter. -/
theorem wider_ofDirectives {base base' : Level} (h : base.rank ≤ base'.rank)
    (ds : List Directive) (pattern : Option Pattern.Matcher) :
    (ofDirectives base ds pattern).Wider (ofDirectives base' ds pattern) := by
  have hbase : Directive.Wider ⟨none, some base⟩ ⟨none, some base'⟩ :=
    ⟨rfl, fun l hl => decide_eq_true (Nat.le_trans (of_decide_eq_true hl) h)⟩
  have hsame : List.Forall₂ Directive.Wider ds ds := List.forall₂_same.2 fun d _ => .refl d
  have hstep : (List.Forall₂ Directive.Wider ⇒ Directive.Wider ⇒ List.Forall₂ Directive.Wider)
      (fun all d => d.put all) (fun all d => d.put all) :=
    fun _ _ hall _ _ hd => Directive.wider_put hd hall
  exact wider_of_directives (List.rel_foldl hstep (.cons hbase .nil) hsame) rfl

end Filter

/-! ## The program -/

/-- Exits that differ at most in what is shown of the journal. -/
structure Exit.Agrees (e e' : Exit) : Prop where
  output : e.output = e'.output
  status : e.status = e'.status
  requests : e.requests = e'.requests
  complaint : e.complaint = e'.complaint

theorem Invocation.agrees_carryOut (i : Invocation) (verbose : Bool) (time text time' text' : String)
    (network : Network) : (i.carryOut time text network).Agrees
      ({ i with verbose := verbose }.carryOut time' text' network) :=
  ⟨rfl, rfl, rfl, rfl⟩

theorem Invocation.notes_carryOut_sublist (i : Invocation) (time text : String)
    (network : Network) : (i.carryOut time text network).notes.Sublist
      ({ i with verbose := true }.carryOut time text network).notes := by
  have hbase : (baseLevel i.verbose).rank ≤ (baseLevel true).rank := by
    cases i.verbose <;> decide
  have hwider : ((FilterText.parse text.toList).filter (baseLevel i.verbose)).Wider
      ((FilterText.parse text.toList).filter (baseLevel true)) :=
    Filter.wider_ofDirectives hbase _ _
  exact (List.Sublist.refl _).append ((List.monotone_filter_right _ hwider).map (Event.line time))

/-- What is shown of the journal has no part in anything else. Take a command line that is accepted
and does not ask to show more, and put the option to show more anywhere before the end of the
options but where a value is awaited. With it or without it, and whatever filter the environment asks
for, the program prints the same to its output, has the same status, sends the same requests and ends
its error output with the same report, if any. With the same filter it shows no less of the journal
than before, in the same order. -/
theorem diagnostics_change_nothing {pre post : List Argument} {v : Argument} {i : Invocation}
    (hparse : Invocation.parse .program (pre ++ post) = .ok i) (hquiet : i.verbose = false)
    (hdashes : Argument.ofString "--" ∉ pre)
    (hlast : ∀ a ∈ pre.getLast?, a ≠ .ofString "-t" ∧ a ≠ .ofString "--timeout")
    (hv : v = .ofString "-v" ∨ v = .ofString "--verbose") (network : Network) :
    let quiet := fun time text => program time text network (pre ++ post)
    let loud := fun time text => program time text network (pre ++ v :: post)
    (∀ time text time' text',
      (quiet time text).Agrees (quiet time' text') ∧ (quiet time text).Agrees (loud time' text')) ∧
    ∀ time text, (quiet time text).notes.Sublist (loud time text).notes := by
  intro quiet loud
  have hloud : Invocation.parse .program (pre ++ v :: post) = .ok { i with verbose := true } :=
    Invocation.parse_insert_verbose (by decide) hparse hquiet hdashes hlast hv
  have hruns (time text) : quiet time text = i.carryOut time text network := by
    simp only [quiet, program, hparse]
  have hruns' (time text) :
      loud time text = { i with verbose := true }.carryOut time text network := by
    simp only [loud, program, hloud]
  refine ⟨fun time text time' text' => ⟨?_, ?_⟩, fun time text => ?_⟩
  · rw [hruns, hruns]
    exact i.agrees_carryOut i.verbose time text time' text' network
  · rw [hruns, hruns']
    exact i.agrees_carryOut true time text time' text' network
  · rw [hruns, hruns']
    exact i.notes_carryOut_sublist time text network

/-- With a server that says nothing, with the option after the value of another one, and with
filters of which one shows nothing and one shows all. -/
theorem diagnostics_change_nothing_silent :
    let network : Network := { servers := [⟨.v4 ⟨10, 0, 0, 1⟩ 502, .accept {}⟩] }
    let pre := ["-t", "5"].map Argument.ofString
    let post := ["10.0.0.1"].map Argument.ofString
    let quiet := program "-" "off" network (pre ++ post)
    let loud := program "-" "trace" network (pre ++ .ofString "-v" :: post)
    quiet.Agrees loud ∧ quiet.notes = [] ∧ loud.status = 1 ∧ loud.output = [] ∧
      loud.complaint = some "Failed to read coil 103 from 10.0.0.1:502: timed out after 5 ms\n" := by
  intro network pre post quiet loud
  have hparse : Invocation.parse .program (pre ++ post) =
      .ok ⟨{ host := "10.0.0.1", timeout := 5 }, false⟩ := by decide
  have hlast : ∀ a ∈ pre.getLast?, a ≠ .ofString "-t" ∧ a ≠ .ofString "--timeout" := by
    rintro a ⟨⟩
    decide
  obtain ⟨hagrees, -⟩ := diagnostics_change_nothing hparse rfl (by decide) hlast (.inl rfl) network
  have hsame : quiet.Agrees loud := (hagrees "-" "off" "-" "trace").2
  refine ⟨hsame, ?_, hsame.status.symm.trans ?_, hsame.output.symm.trans ?_,
    hsame.complaint.symm.trans ?_⟩
  · decide +kernel
  · decide +kernel
  · decide +kernel
  · decide +kernel

end CoilProbe
