import CoilProbe.Proofs.Programs

/-!
# Which events are shown

Of directives with different targets, the one with the longest target that a component's name
begins with decides about the component; without one, it is the directive without a target, and
without that, the option to show more. `Event.Shown` says so without an order among the directives,
and `admits_iff_shown` that filters made of them decide alike. `program_shows_what_targets_allow`
says what this means for the lines of the program.
-/

namespace CoilProbe

namespace Directive

variable {d d' b : Directive} {ds ds' : List Directive} {base : Level} {name : List Char}
  {t t' : Threshold}

/-- A name begins with the target of a directive. -/
def Matches (d : Directive) (name : List Char) : Prop := ∃ target ∈ d.target, target <+: name

/-- The threshold that directives set for the components of a name. -/
inductive Sets (ds : List Directive) (base : Level) (name : List Char) : Threshold → Prop
  /-- The longest target that matches decides. -/
  | longest {d : Directive} (hd : d ∈ ds) (hmatch : d.Matches name)
      (hlongest : ∀ d' ∈ ds, d'.Matches name → d'.reach ≤ d.reach) : Sets ds base name d.threshold
  /-- A level without a target is for the names that no target matches. -/
  | bare {d : Directive} (hnone : ∀ d ∈ ds, ¬d.Matches name) (hd : d ∈ ds)
      (hbare : d.target = none) : Sets ds base name d.threshold
  /-- Without one it is the base. -/
  | rest (hnone : ∀ d ∈ ds, ¬d.Matches name) (hbare : ∀ d ∈ ds, d.target ≠ none) :
      Sets ds base name (some base)

theorem matches_iff_covers (h : d.target ≠ none) : d.covers name = true ↔ d.Matches name := by
  obtain ⟨target, htarget⟩ := Option.ne_none_iff_exists'.1 h
  rw [covers, Matches, htarget]
  simp only [Option.mem_some_iff, exists_eq_left', List.isPrefixOf_iff_prefix]

/-! ## The directives of a filter -/

theorem put_of_ne (h : ∀ e ∈ ds, e.target ≠ d.target) : d.put ds = ds ++ [d] := by
  induction ds with
  | nil => rfl
  | cons e rest ih =>
    obtain ⟨hhead, hrest⟩ := List.forall_mem_cons.1 h
    rw [put, if_neg hhead, ih hrest, List.cons_append]

/-- Directives that are put one by one behind one without a target stand there in their order, but
for the one without a target among them, which takes its place. -/
theorem foldl_put (hb : b.target = none) (hnodup : (ds.map target).Nodup)
    (hold : ∀ e ∈ ds', e.target ≠ none ∧ ∀ d ∈ ds, e.target ≠ d.target) :
    ds.foldl (fun all d => d.put all) (b :: ds') =
      (ds.find? (·.target = none)).getD b :: ds' ++ ds.filter (·.target ≠ none) := by
  induction ds generalizing b ds' with
  | nil => simp
  | cons d rest ih =>
    obtain ⟨hnew, hnodup⟩ := List.nodup_cons.1 hnodup
    rw [List.foldl_cons]
    by_cases hd : d.target = none
    · have hput : d.put (b :: ds') = d :: ds' := by rw [put, if_pos (hb.trans hd.symm)]
      have hrest : rest.find? (·.target = none) = none := by
        refine List.find?_eq_none.2 fun e he hnone => hnew (List.mem_map.2 ⟨e, he, ?_⟩)
        exact (of_decide_eq_true hnone).trans hd.symm
      rw [hput, ih hd hnodup fun e he => ⟨(hold e he).1, fun d' hd' =>
        (hold e he).2 d' (List.mem_cons_of_mem _ hd')⟩, hrest]
      simp [hd]
    · have hput : d.put (b :: ds') = b :: (ds' ++ [d]) := by
        refine put_of_ne (List.forall_mem_cons.2 ⟨fun h => hd (h.symm.trans hb), fun e he => ?_⟩)
        exact (hold e he).2 d List.mem_cons_self
      have hold' : ∀ e ∈ ds' ++ [d], e.target ≠ none ∧ ∀ d' ∈ rest, e.target ≠ d'.target := by
        intro e he
        rcases List.mem_append.1 he with he | he
        · exact ⟨(hold e he).1, fun d' hd' => (hold e he).2 d' (List.mem_cons_of_mem _ hd')⟩
        · cases List.mem_singleton.1 he
          exact ⟨hd, fun d' hd' h => hnew (List.mem_map.2 ⟨d', hd', h.symm⟩)⟩
      rw [hput, ih hb hnodup hold']
      simp [hd]

/-! ## The directive that decides -/

/-- Among some directives and one before them, the last of those with the longest target is the
best. -/
theorem foldl_better (b : Directive) (ds : List Directive) :
    ∃ d, ds.foldl better (some b) = some d ∧
      ((d = b ∧ ∀ e ∈ ds, e.reach < b.reach) ∨
        (d ∈ ds ∧ b.reach ≤ d.reach ∧ ∀ e ∈ ds, e.reach ≤ d.reach)) := by
  induction ds generalizing b with
  | nil => exact ⟨b, rfl, .inl ⟨rfl, List.forall_mem_nil _⟩⟩
  | cons e rest ih =>
    rw [List.foldl_cons, better]
    by_cases hle : b.reach ≤ e.reach
    · rw [if_pos hle]
      obtain ⟨d, hd, ⟨rfl, hall⟩ | ⟨hmem, hge, hall⟩⟩ := ih e
      · refine ⟨d, hd, .inr ⟨List.mem_cons_self, hle, List.forall_mem_cons.2 ⟨Nat.le_refl _, ?_⟩⟩⟩
        exact fun e he => Nat.le_of_lt (hall e he)
      · refine ⟨d, hd, .inr ⟨List.mem_cons_of_mem _ hmem, Nat.le_trans hle hge, ?_⟩⟩
        exact List.forall_mem_cons.2 ⟨hge, hall⟩
    · rw [if_neg hle]
      obtain ⟨d, hd, ⟨rfl, hall⟩ | ⟨hmem, hge, hall⟩⟩ := ih b
      · exact ⟨d, hd, .inl ⟨rfl, List.forall_mem_cons.2 ⟨by omega, hall⟩⟩⟩
      · refine ⟨d, hd, .inr ⟨List.mem_cons_of_mem _ hmem, hge, ?_⟩⟩
        exact List.forall_mem_cons.2 ⟨by omega, hall⟩

theorem Matches.target_ne_none (h : d.Matches name) : d.target ≠ none := by
  obtain ⟨target, htarget, -⟩ := h
  exact Option.ne_none_iff_exists'.2 ⟨target, htarget⟩

/-- The directive for the names that no target matches, if it is not the base. -/
theorem sets_of_no_match (hnone : ∀ d ∈ ds, ¬d.Matches name)
    (hb : (ds.find? (·.target = none)).getD ⟨none, some base⟩ = b) :
    Sets ds base name b.threshold := by
  subst hb
  cases hfind : ds.find? (·.target = none) with
  | none =>
    exact .rest hnone fun d hd hbare => List.find?_eq_none.1 hfind d hd (decide_eq_true hbare)
  | some e =>
    have hbare : e.target = none := by simpa using List.find?_some hfind
    exact .bare hnone (List.mem_of_find?_eq_some hfind) hbare

theorem target_of_find? (hb : (ds.find? (·.target = none)).getD ⟨none, some base⟩ = b) :
    b.target = none := by
  subst hb
  cases hfind : ds.find? (·.target = none) with
  | none => rfl
  | some e => simpa using List.find?_some hfind

/-- The directive that decides in a filter sets the threshold that the directives set. -/
theorem exists_deciding (hnodup : (ds.map target).Nodup) (base : Level) (name : List Char)
    (pattern : Option Pattern.Matcher) :
    ∃ d, deciding (Filter.ofDirectives base ds pattern).directives name = some d ∧
      Sets ds base name d.threshold := by
  have hdirectives : ds.foldl (fun all d => d.put all) [⟨none, some base⟩] =
      (ds.find? (·.target = none)).getD ⟨none, some base⟩ :: [] ++ ds.filter (·.target ≠ none) :=
    foldl_put rfl hnodup (List.forall_mem_nil _)
  generalize hb : (ds.find? (·.target = none)).getD ⟨none, some base⟩ = b at hdirectives
  have hbare : b.target = none := target_of_find? hb
  have hcovers : b.covers name = true := by rw [covers, hbare]
  have hdeciding : deciding (Filter.ofDirectives base ds pattern).directives name =
      ((ds.filter (·.target ≠ none)).filter (·.covers name)).foldl better (some b) := by
    show deciding (ds.foldl _ _) name = _
    rw [hdirectives, deciding, List.singleton_append, List.filter_cons_of_pos (by exact hcovers)]
    rfl
  have hmem : ∀ e, e ∈ (ds.filter (·.target ≠ none)).filter (·.covers name) ↔
      e ∈ ds ∧ e.Matches name := by
    intro e
    rw [List.mem_filter, List.mem_filter, decide_eq_true_iff, and_assoc]
    refine and_congr_right fun _ => ⟨fun h => (matches_iff_covers h.1).1 h.2, fun h => ?_⟩
    exact ⟨h.target_ne_none, (matches_iff_covers h.target_ne_none).2 h⟩
  obtain ⟨d, hd, ⟨rfl, hall⟩ | ⟨hin, -, hall⟩⟩ :=
    foldl_better b ((ds.filter (·.target ≠ none)).filter (·.covers name))
  · refine ⟨d, hdeciding.trans hd, sets_of_no_match (fun e he hmatch => ?_) hb⟩
    -- no target is shorter than none
    have hlt := hall e ((hmem e).2 ⟨he, hmatch⟩)
    have hzero : d.reach = 0 := by rw [reach, hbare]; rfl
    omega
  · obtain ⟨hds, hmatch⟩ := (hmem d).1 hin
    exact ⟨d, hdeciding.trans hd, .longest hds hmatch fun e he h => hall e ((hmem e).2 ⟨he, h⟩)⟩

/-- Targets of one length that begin the same name are the same. -/
theorem Matches.target_eq (h : d.Matches name) (h' : d'.Matches name)
    (hreach : d.reach = d'.reach) : d.target = d'.target := by
  obtain ⟨target, htarget, hprefix⟩ := h
  obtain ⟨target', htarget', hprefix'⟩ := h'
  rw [Option.mem_def] at htarget htarget'
  rw [reach, reach, htarget, htarget', Option.getD_some, Option.getD_some] at hreach
  rw [htarget, htarget', (List.prefix_of_prefix_length_le hprefix hprefix' hreach.le).eq_of_length
    hreach]

/-- Directives with different targets set one threshold. -/
theorem Sets.unique (hnodup : (ds.map target).Nodup) (h : Sets ds base name t)
    (h' : Sets ds base name t') : t = t' := by
  have hsame : ∀ d ∈ ds, ∀ d' ∈ ds, d.target = d'.target → d = d' := fun d hd d' hd' =>
    List.inj_on_of_nodup_map hnodup hd hd'
  cases h with
  | @longest d hd hmatch hlongest =>
    cases h' with
    | @longest d' hd' hmatch' hlongest' =>
      have hreach := Nat.le_antisymm (hlongest' d hd hmatch) (hlongest d' hd' hmatch')
      rw [hsame d hd d' hd' (hmatch.target_eq hmatch' hreach)]
    | bare hnone => exact absurd hmatch (hnone d hd)
    | rest hnone => exact absurd hmatch (hnone d hd)
  | @bare d hnone hd hbare =>
    cases h' with
    | @longest d' hd' hmatch' => exact absurd hmatch' (hnone d' hd')
    | @bare d' _ hd' hbare' => rw [hsame d hd d' hd' (hbare.trans hbare'.symm)]
    | rest _ hall => exact absurd hbare (hall d hd)
  | rest hnone hall =>
    cases h' with
    | @longest d' hd' hmatch' => exact absurd hmatch' (hnone d' hd')
    | @bare d' _ hd' hbare' => exact absurd hbare' (hall d' hd')
    | rest => rfl

theorem Sets.of_perm (hds : ds.Perm ds') (h : Sets ds base name t) : Sets ds' base name t := by
  cases h with
  | longest hd hmatch hlongest =>
    exact .longest (hds.mem_iff.1 hd) hmatch fun e he => hlongest e (hds.mem_iff.2 he)
  | bare hnone hd hbare =>
    exact .bare (fun e he => hnone e (hds.mem_iff.2 he)) (hds.mem_iff.1 hd) hbare
  | rest hnone hall =>
    exact .rest (fun e he => hnone e (hds.mem_iff.2 he)) fun e he => hall e (hds.mem_iff.2 he)

/-- The base is for what no directive is about. -/
theorem Sets.of_base (h : Sets ds base name t) (base' : Level)
    (habout : ∃ d ∈ ds, d.Matches name ∨ d.target = none) : Sets ds base' name t := by
  obtain ⟨d, hd, habout⟩ := habout
  cases h with
  | longest hd hmatch hlongest => exact .longest hd hmatch hlongest
  | bare hnone hd hbare => exact .bare hnone hd hbare
  | rest hnone hall => exact (habout.elim (hnone d hd) (hall d hd)).elim

end Directive

/-! ## Events -/

/-- The levels that a threshold lets through. -/
def Threshold.levels : Threshold → List Level
  | none => []
  | some .error => [.error]
  | some .warn => [.error, .warn]
  | some .info => [.error, .warn, .info]
  | some .debug => [.error, .warn, .info, .debug]
  | some .trace => [.error, .warn, .info, .debug, .trace]

theorem Threshold.admits_iff {t : Threshold} {l : Level} : t.admits l = true ↔ l ∈ t.levels := by
  rcases t with _ | (_ | _ | _ | _ | _) <;> cases l <;> decide

/-- Directives let an event through, where the base is for what they are not about. -/
def Event.Shown (ds : List Directive) (base : Level) (e : Event) : Prop :=
  ∃ t, Directive.Sets ds base e.component.name.toList t ∧ e.level ∈ t.levels

namespace Filter

variable {ds ds' : List Directive} {base base' : Level} {e : Event}

/-- A filter made of directives with different targets decides as they say. -/
theorem admits_iff_shown (hnodup : (ds.map Directive.target).Nodup) (base : Level) (e : Event) :
    (ofDirectives base ds none).admits e = true ↔ e.Shown ds base := by
  obtain ⟨d, hd, hsets⟩ :=
    Directive.exists_deciding hnodup base e.component.name.toList none
  have hadmits : (ofDirectives base ds none).admits e = d.threshold.admits e.level := by
    rw [admits, admitsLevel, hd]
    exact Bool.and_true _
  rw [hadmits, Threshold.admits_iff]
  exact ⟨fun h => ⟨d.threshold, hsets, h⟩, fun ⟨t, ht, h⟩ => ht.unique hnodup hsets ▸ h⟩

end Filter

namespace Event

variable {ds ds' : List Directive} {base : Level} {e : Event}

theorem shown_perm (hds : ds.Perm ds') : e.Shown ds base ↔ e.Shown ds' base :=
  ⟨fun ⟨t, ht, h⟩ => ⟨t, ht.of_perm hds, h⟩, fun ⟨t, ht, h⟩ => ⟨t, ht.of_perm hds.symm, h⟩⟩

theorem shown_base (base base' : Level)
    (habout : ∃ d ∈ ds, d.Matches e.component.name.toList ∨ d.target = none) :
    e.Shown ds base ↔ e.Shown ds base' :=
  ⟨fun ⟨t, ht, h⟩ => ⟨t, ht.of_base base' habout, h⟩,
    fun ⟨t, ht, h⟩ => ⟨t, ht.of_base base habout, h⟩⟩

end Event

/-! ## The program -/

namespace Invocation

variable {time text text' : String} {network : Network} {i i' : Invocation}
  {directives : List Directive}

theorem notes_carryOut (i : Invocation) (htext : FilterText.Spelled directives text.toList) :
    (i.carryOut time text network).notes =
      ((probe i.settings network {}).log.filter
        (Filter.ofDirectives (baseLevel i.verbose) directives none).admits).map
          (Event.line time) := by
  have hparse := FilterText.parse_of_spelled htext
  simp only [carryOut, hparse, FilterText.filter, List.map_nil, List.nil_append]

/-- The filter has no part in anything but the lines that it lets through. -/
theorem carryOut_congr (hsettings : i'.settings = i.settings)
    (hnotes : (i'.carryOut time text' network).notes = (i.carryOut time text network).notes) :
    i'.carryOut time text' network = i.carryOut time text network := by
  obtain ⟨settings, verbose⟩ := i
  obtain ⟨settings', verbose'⟩ := i'
  cases hsettings
  exact congrArg (fun notes =>
    { carryOut time text network ⟨settings, verbose⟩ with notes := notes }) hnotes

end Invocation

/-- The program shows the events of its probe that the directives let through, in their order: the
longest target that a component's name begins with decides, then the level without a target, then
the option to show more. Another order of the directives, or their levels in another case, changes
nothing. For what a target matches, the option changes nothing either, and for nothing at all if
there is a level without a target. -/
theorem program_shows_what_targets_allow (time text : String) (network : Network)
    {directives : List Directive} (htext : FilterText.Spelled directives text.toList)
    (hdistinct : (directives.map Directive.target).Nodup) :
    ∃ shown : Bool → Event → Bool,
      (∀ verbose e, shown verbose e = true ↔ e.Shown directives (if verbose then .debug else .warn)) ∧
      (∀ e, (∃ d ∈ directives, d.Matches e.component.name.toList) →
        shown true e = shown false e) ∧
      ∀ arguments i, Invocation.parse .program arguments = .ok i →
        let exit := program time text network arguments
        exit.notes = ((probe i.settings network {}).log.filter (shown i.verbose)).map
          (Event.line time) ∧
        (∀ directives' text', directives'.Perm directives →
          FilterText.Spelled directives' text'.toList →
          program time text' network arguments = exit) ∧
        ((∃ d ∈ directives, d.target = none) → ∀ arguments' i',
          Invocation.parse .program arguments' = .ok i' → i'.settings = i.settings →
          program time text network arguments' = exit) := by
  have hshown (verbose e) := Filter.admits_iff_shown hdistinct (baseLevel verbose) e
  have hbase (e : Event)
      (habout : ∃ d ∈ directives, d.Matches e.component.name.toList ∨ d.target = none) (v v') :
      (Filter.ofDirectives (baseLevel v) directives none).admits e =
        (Filter.ofDirectives (baseLevel v') directives none).admits e := by
    rw [Bool.eq_iff_iff, hshown, hshown]
    exact Event.shown_base _ _ habout
  have hmatched (e : Event) (habout : ∃ d ∈ directives, d.Matches e.component.name.toList) :
      (Filter.ofDirectives (baseLevel true) directives none).admits e =
        (Filter.ofDirectives (baseLevel false) directives none).admits e := by
    obtain ⟨d, hd, hmatch⟩ := habout
    exact hbase e ⟨d, hd, .inl hmatch⟩ true false
  refine ⟨fun verbose => (Filter.ofDirectives (baseLevel verbose) directives none).admits, hshown,
    hmatched, fun arguments i hi => ?_⟩
  have hruns (text) : program time text network arguments = i.carryOut time text network := by
    simp only [program, hi]
  intro exit
  have hexit : exit = i.carryOut time text network := hruns text
  refine ⟨?_, fun directives' text' hperm htext' => ?_, ?_⟩
  · rw [hexit]
    exact i.notes_carryOut htext
  · have hdistinct' : (directives'.map Directive.target).Nodup :=
      (hperm.map Directive.target).nodup_iff.2 hdistinct
    rw [hexit, hruns]
    refine Invocation.carryOut_congr rfl ?_
    rw [i.notes_carryOut htext, i.notes_carryOut htext']
    refine congrArg _ (List.filter_congr fun e _ => ?_)
    rw [Bool.eq_iff_iff, hshown, Filter.admits_iff_shown hdistinct']
    exact Event.shown_perm hperm
  · rintro ⟨d, hd, hbare⟩ arguments' i' hi' hsettings
    have hruns' : program time text network arguments' = i'.carryOut time text network := by
      simp only [program, hi']
    rw [hexit, hruns']
    refine Invocation.carryOut_congr hsettings ?_
    rw [i.notes_carryOut htext, i'.notes_carryOut htext, hsettings]
    exact congrArg _ (List.filter_congr fun e _ => hbase e ⟨d, hd, .inr hbare⟩ _ _)

/-- With a target within another one, a level without a target, and a coil that is read: the shorter
target shows the event of the reader, and the longer one has a level that hides those of the client,
which are of a later level. Another order and another case, or the option to show more, make no
difference. -/
theorem program_shows_what_targets_allow_nested :
    let network : Network :=
      { names := [("plc", { answer := .ok [.v4 ⟨10, 0, 0, 1⟩, .v4 ⟨10, 0, 0, 2⟩] })]
        servers := [⟨.v4 ⟨10, 0, 0, 2⟩ 502,
          .accept { replies := [.send [[0, 0, 0, 0, 0, 4, 1, 1, 1, 1]] none] }⟩] }
    let text := "modbus_coil_reader::tcp=info,off,modbus_coil_reader"
    let quiet := ["plc"].map Argument.ofString
    let loud := ["plc", "-v"].map Argument.ofString
    let exit := program "-" text network quiet
    exit.notes = ["[- DEBUG modbus_coil_reader::reader] Coil 103 of plc:502 is true\n"] ∧
      program "-" "modbus_coil_reader,modbus_coil_reader::tcp=Info,OFF" network quiet = exit ∧
      program "-" text network loud = exit := by
  intro network text quiet loud exit
  have hsolid : Solid "modbus_coil_reader".toList :=
    ⟨by decide, by decide, by decide, by rintro c ⟨⟩; decide, by rintro c ⟨⟩; decide⟩
  have hsolid' : Solid "modbus_coil_reader::tcp".toList :=
    ⟨by decide, by decide, by decide, by rintro c ⟨⟩; decide, by rintro c ⟨⟩; decide⟩
  have hlevel : ∀ t : Threshold, ¬t.Spelled "modbus_coil_reader".toList := by
    rintro (_ | _ | _ | _ | _ | _) h <;> exact absurd h.symm (by decide)
  have hinfo : Directive.Spelled ⟨some "modbus_coil_reader::tcp".toList, some .info⟩
      ("modbus_coil_reader::tcp".toList ++ '=' :: "info".toList) := .both hsolid' (by decide) rfl
  have hinfo' : Directive.Spelled ⟨some "modbus_coil_reader::tcp".toList, some .info⟩
      ("modbus_coil_reader::tcp".toList ++ '=' :: "Info".toList) := .both hsolid' (by decide) rfl
  have hoff : Directive.Spelled ⟨none, none⟩ "off".toList := .level rfl
  have hoff' : Directive.Spelled ⟨none, none⟩ "OFF".toList := .level rfl
  have hall : Directive.Spelled ⟨some "modbus_coil_reader".toList, some .trace⟩
      "modbus_coil_reader".toList := .target hsolid (by decide) hlevel
  obtain ⟨shown, -, -, hruns⟩ := program_shows_what_targets_allow "-" text network
    ⟨_, .cons hinfo (.cons hoff (.cons hall .nil)), by decide⟩ (by decide)
  obtain ⟨-, hperm, hbare⟩ := hruns quiet ⟨{ host := "plc" }, false⟩ (by decide)
  refine ⟨by decide +kernel, ?_, ?_⟩
  · refine hperm _ _ ?_ ⟨_, .cons hall (.cons hinfo' (.cons hoff' .nil)), by decide⟩
    decide
  · exact hbare ⟨_, .tail _ (.head _), rfl⟩ loud ⟨{ host := "plc" }, true⟩ (by decide) rfl

end CoilProbe
