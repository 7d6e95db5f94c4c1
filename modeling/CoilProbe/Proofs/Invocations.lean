import CoilProbe.Proofs.Moves

/-!
# Command lines that are accepted

What a command line asks for depends on its dialect only in that it must not use options that the
dialect lacks: `Invocation.parse_of_subset` says that more options change nothing about it.
`Invocation.settings_of_parse` says which settings can be asked for, and
`Invocation.parse_insert_verbose` that one option more, which shows more of the journal, changes
nothing else about what is asked for.
-/

namespace CoilProbe

namespace Reading

variable {d d' : Dialect} {a : Argument} {arguments pre post : List Argument} {r r' s : Reading}

theorem takeAll_cons : takeAll d (a :: arguments) r = .ok r' ↔
    ∃ s, r.take d a = .ok s ∧ takeAll d arguments s = .ok r' := bind_eq_ok

theorem takeAll_append : takeAll d (pre ++ post) r = .ok r' ↔
    ∃ s, takeAll d pre r = .ok s ∧ takeAll d post s = .ok r' := by
  induction pre generalizing r with
  | nil => exact ⟨fun h => ⟨r, rfl, h⟩, fun ⟨s, hs, h⟩ => by cases hs; exact h⟩
  | cons a pre ih =>
    constructor
    · intro h
      obtain ⟨t, ht, h⟩ := takeAll_cons.1 h
      obtain ⟨s, hs, h⟩ := ih.1 h
      exact ⟨s, takeAll_cons.2 ⟨t, ht, hs⟩, h⟩
    · rintro ⟨s, hs, h⟩
      obtain ⟨t, ht, hs⟩ := takeAll_cons.1 hs
      exact takeAll_cons.2 ⟨t, ht, ih.2 ⟨s, hs, h⟩⟩

/-! ## More options -/

/-- An argument that is accepted means the same with more options. -/
theorem take_of_subset (hd : d.flags ⊆ d'.flags) (h : r.take d a = .ok r') :
    r.take d' a = .ok r' := by
  obtain ⟨ms, hms, hrun⟩ := take_eq_ok.1 h
  exact take_eq_ok.2 ⟨ms, hms.of_subset hd, hrun⟩

theorem takeAll_of_subset (hd : d.flags ⊆ d'.flags) (h : takeAll d arguments r = .ok r') :
    takeAll d' arguments r = .ok r' := by
  induction arguments generalizing r with
  | nil => exact h
  | cons a rest ih =>
    obtain ⟨s, hs, h⟩ := takeAll_cons.1 h
    exact takeAll_cons.2 ⟨s, take_of_subset hd hs, ih h⟩

/-! ## What arguments leave alone -/

/-- What each argument preserves is preserved by all of them. -/
theorem takeAll_induction (P : Reading → Prop)
    (hstep : ∀ a ∈ arguments, ∀ r r', r.take d a = .ok r' → P r → P r')
    (h : takeAll d arguments r = .ok r') (hr : P r) : P r' := by
  induction arguments generalizing r with
  | nil =>
    cases h
    exact hr
  | cons a rest ih =>
    obtain ⟨hhead, hrest⟩ := List.forall_mem_cons.1 hstep
    obtain ⟨s, hs, h⟩ := takeAll_cons.1 h
    exact ih hrest h (hhead r s hs hr)

/-- Nothing takes back the option to show more. -/
theorem verbose_of_takeAll (h : takeAll d arguments r = .ok r') (hv : r'.verbose = false) :
    r.verbose = false := by
  by_contra hloud
  have hloud' : r'.verbose = true := by
    refine takeAll_induction (fun r => r.verbose = true) ?_ h (Bool.not_eq_false _ ▸ hloud)
    intro a _ r r' ha hr
    obtain ⟨ms, -, hrun⟩ := take_eq_ok.1 ha
    exact (Move.verbose_of_runAll hrun).2 (.inl hr)
  rw [hv] at hloud'
  cases hloud'

theorem verbose_of_notMem (hd : .verbose ∉ d.flags) (h : takeAll d arguments r = .ok r')
    (hv : r.verbose = false) : r'.verbose = false := by
  refine takeAll_induction (fun r => r.verbose = false) ?_ h hv
  intro a _ r r' ha hr
  obtain ⟨ms, hms, hrun⟩ := take_eq_ok.1 ha
  have hunused : .flag .verbose ∉ ms := fun hf => hd (hms.mem_flags hf)
  rw [← Bool.not_eq_true, Move.verbose_of_runAll hrun, or_iff_left hunused, Bool.not_eq_true]
  exact hr

theorem escaped_of_takeAll (hdashes : Argument.ofString "--" ∉ arguments)
    (h : takeAll d arguments r = .ok r') (hr : r.escaped = false) : r'.escaped = false := by
  refine takeAll_induction (fun r => r.escaped = false) ?_ h hr
  intro a ha r r' htake hr
  obtain ⟨ms, hms, hrun⟩ := take_eq_ok.1 htake
  have hescape : .escape ∉ ms := fun hmem => hdashes ((hms.eq_dashes hmem).1 ▸ ha)
  exact (Move.escaped_of_runAll hescape hrun).trans hr

/-! ## One option more -/

/-- Reading arguments and then looking at what is pending comes to a reading. -/
def Ends (d : Dialect) (arguments : List Argument) (r s : Reading) : Prop :=
  ∃ t, takeAll d arguments r = .ok t ∧ t.settle = .ok s

theorem ends_cons : Ends d (a :: arguments) r s ↔
    ∃ t, r.take d a = .ok t ∧ Ends d arguments t s := by
  constructor
  · rintro ⟨u, hu, hs⟩
    obtain ⟨t, ht, hu⟩ := takeAll_cons.1 hu
    exact ⟨t, ht, u, hu, hs⟩
  · rintro ⟨t, ht, u, hu, hs⟩
    exact ⟨u, takeAll_cons.2 ⟨t, ht, hu⟩, hs⟩

theorem ends_append : Ends d (pre ++ post) r s ↔
    ∃ t, takeAll d pre r = .ok t ∧ Ends d post t s := by
  constructor
  · rintro ⟨u, hu, hs⟩
    obtain ⟨t, ht, hu⟩ := takeAll_append.1 hu
    exact ⟨t, ht, u, hu, hs⟩
  · rintro ⟨t, ht, u, hu, hs⟩
    exact ⟨u, takeAll_append.2 ⟨t, ht, hu⟩, hs⟩

theorem Ends.verbose_eq_false (h : Ends d arguments r s) (hv : s.verbose = false) :
    r.verbose = false := by
  obtain ⟨t, ht, hs⟩ := h
  exact verbose_of_takeAll ht ((marks_of_settle hs).2.symm.trans hv)

/-- What is pending can as well be looked at right away, unless it is an option without its
value. -/
theorem Ends.settled (hidle : r.awaiting = false) (h : Ends d arguments r s) :
    ∃ t, r.settle = .ok t ∧ Ends d arguments t s := by
  induction arguments generalizing r with
  | nil =>
    obtain ⟨t, ht, hs⟩ := h
    cases ht
    exact ⟨s, hs, s, rfl, settle_of_settle hs⟩
  | cons a rest ih =>
    obtain ⟨r', hr', hrest⟩ := ends_cons.1 h
    obtain ⟨ms, hms, hrun⟩ := take_eq_ok.1 hr'
    rw [hidle] at hms
    -- the argument means the same when what is pending has been looked at
    have hsame : ∀ t, r.settle = .ok t → a.Means d t.escaped t.awaiting ms := fun t ht => by
      rw [(marks_of_settle ht).1, (awaiting_of_settle ht).2]
      exact hms
    rcases hms.cases_looks with ⟨-, rfl⟩ | ⟨m, later, rfl, hlooks⟩
    · cases hrun
      obtain ⟨u, hu, hends⟩ := ih (r := { r with escaped := true }) hidle hrest
      have hmarked : r.settle.map (marked true r.verbose) = .ok u :=
        (settle_marked r).symm.trans hu
      cases ht : r.settle with
      | error stop =>
        rw [ht] at hmarked
        cases hmarked
      | ok t =>
        rw [ht] at hmarked
        cases hmarked
        refine ⟨t, rfl, ends_cons.2 ⟨_, take_eq_ok.2 ⟨_, hsame t ht, rfl⟩, ?_⟩⟩
        rw [← (marks_of_settle ht).2] at hends
        exact hends
    · obtain ⟨t, ht, hrun⟩ := (Move.runAll_eq_ok_of_looks (hlooks m List.mem_cons_self)).1 hrun
      exact ⟨t, ht, ends_cons.2 ⟨r', take_eq_ok.2 ⟨_, hsame t ht, hrun⟩, hrest⟩⟩

/-- A reading with more of the journal shown. -/
def louder (r : Reading) : Reading := { r with verbose := true }

/-- An argument that does not use the option has no use for it. -/
theorem take_louder (h : r.take d a = .ok r') (hv : r'.verbose = false) :
    r.louder.take d a = .ok r'.louder := by
  obtain ⟨ms, hms, hrun⟩ := take_eq_ok.1 h
  refine take_eq_ok.2 ⟨ms, hms, ?_⟩
  by_cases hescape : .escape ∈ ms
  · obtain ⟨-, rfl⟩ := hms.eq_dashes hescape
    cases hrun
    rfl
  · have hunused : .flag .verbose ∉ ms := fun hmem => by
      rw [(Move.verbose_of_runAll hrun).2 (.inr hmem)] at hv
      cases hv
    have hmarked : Move.runAll ms r.louder = .ok (r'.marked r.escaped true) := by
      show Move.runAll ms (r.marked r.escaped true) = _
      rw [Move.runAll_marked hescape hunused, hrun]
      rfl
    rw [hmarked, ← Move.escaped_of_runAll hescape hrun]
    rfl

theorem Ends.louder (h : Ends d arguments r s) (hv : s.verbose = false) :
    Ends d arguments r.louder s.louder := by
  induction arguments generalizing r with
  | nil =>
    obtain ⟨t, ht, hs⟩ := h
    cases ht
    refine ⟨_, rfl, ?_⟩
    have hmarked : r.louder.settle = .ok (s.marked r.escaped true) := by
      show (r.marked r.escaped true).settle = _
      rw [settle_marked, hs]
      rfl
    rw [hmarked, ← (marks_of_settle hs).1]
    rfl
  | cons a rest ih =>
    obtain ⟨t, ht, hrest⟩ := ends_cons.1 h
    exact ends_cons.2 ⟨t.louder, take_louder ht (hrest.verbose_eq_false hv), ih hrest⟩

/-- Only right after the timeout option its value is awaited. -/
theorem awaiting_of_takeAll (hdashes : Argument.ofString "--" ∉ arguments)
    (hlast : ∀ a ∈ arguments.getLast?, a ≠ .ofString "-t" ∧ a ≠ .ofString "--timeout")
    (h : takeAll d arguments {} = .ok r) (hv : r.verbose = false) : r.awaiting = false := by
  rcases List.eq_nil_or_concat arguments with rfl | ⟨init, a, rfl⟩
  · cases h
    rfl
  · rw [List.concat_eq_append] at hdashes hlast h
    obtain ⟨s, -, hs⟩ := takeAll_append.1 h
    obtain ⟨r', hr', h⟩ := takeAll_cons.1 hs
    cases h
    obtain ⟨ms, hms, hrun⟩ := take_eq_ok.1 hr'
    have hescape : .escape ∉ ms := fun hmem => hdashes <| by
      rw [(hms.eq_dashes hmem).1]
      exact List.mem_append_right init List.mem_cons_self
    by_contra hawaiting
    rw [Bool.not_eq_false] at hawaiting
    have hwait := Move.awaiting_of_runAll hescape hms.ne_nil hrun hawaiting
    have halone : ∀ f, .flag f ∈ ms → f = .timeout := fun f hf => by
      refine (Move.flag_of_runAll hf hrun).resolve_left ?_
      rintro rfl
      rw [(Move.verbose_of_runAll hrun).2 (.inr hf)] at hv
      cases hv
    obtain ⟨hshort, hlong⟩ := hlast a (by rw [List.getLast?_append]; rfl)
    exact (hms.eq_timeout hwait halone).elim hshort hlong

/-- The option to show more looks at what is pending and does nothing else. -/
theorem take_verbose (hd : .verbose ∈ d.flags)
    (ha : a = .ofString "-v" ∨ a = .ofString "--verbose") (hescaped : r.escaped = false)
    (hs : r.settle = .ok s) (hv : s.verbose = false) : r.take d a = .ok s.louder := by
  refine take_eq_ok.2 ⟨[.flag .verbose], ?_, ?_⟩
  · rw [hescaped]
    rcases ha with rfl | rfl
    · exact .row (by decide) (.flag hd nofun .done)
    · exact .flag hd (by decide)
  · rw [runAll_singleton]
    exact Move.run_verbose_eq_ok.2 ⟨s, hs, hv, rfl⟩

end Reading

namespace Invocation

variable {d d' : Dialect} {arguments : List Argument} {i : Invocation}

/-- What is asked for was found by reading all arguments and looking at the last one. -/
theorem parse_eq_ok : parse d arguments = .ok i ↔
    ∃ r s host, Reading.takeAll d arguments {} = .ok r ∧ r.settle = .ok s ∧ s.host = some host ∧
      i = ⟨Settings.ofHost host s.timeout, s.verbose⟩ := by
  constructor
  · intro h
    obtain ⟨r, hr, h⟩ := bind_eq_ok.1 h
    obtain ⟨s, hs, h⟩ := bind_eq_ok.1 h
    cases hhost : s.host with
    | none =>
      simp only [hhost] at h
      cases h
    | some host =>
      simp only [hhost] at h
      cases h
      exact ⟨r, s, host, hr, hs, hhost, rfl⟩
  · rintro ⟨r, s, host, hr, hs, hhost, rfl⟩
    refine bind_eq_ok.2 ⟨r, hr, bind_eq_ok.2 ⟨s, hs, ?_⟩⟩
    simp only [hhost]
    rfl

/-- A command line that is accepted asks for the same with more options. -/
theorem parse_of_subset (hd : d.flags ⊆ d'.flags) (h : parse d arguments = .ok i) :
    parse d' arguments = .ok i := by
  obtain ⟨r, s, host, hr, hs, hhost, hi⟩ := parse_eq_ok.1 h
  exact parse_eq_ok.2 ⟨r, s, host, Reading.takeAll_of_subset hd hr, hs, hhost, hi⟩

theorem verbose_of_parse (hd : .verbose ∉ d.flags) (h : parse d arguments = .ok i) :
    i.verbose = false := by
  obtain ⟨r, s, host, hr, hs, hhost, rfl⟩ := parse_eq_ok.1 h
  calc s.verbose = r.verbose := (Reading.marks_of_settle hs).2
    _ = false := Reading.verbose_of_notMem hd hr rfl

/-- One option more, which shows more of the journal, asks for the same otherwise. It may stand
anywhere before the end of the options, but not where the value of an option is awaited. -/
theorem parse_insert_verbose {pre post : List Argument} {v : Argument} (hd : .verbose ∈ d.flags)
    (h : parse d (pre ++ post) = .ok i) (hquiet : i.verbose = false)
    (hdashes : Argument.ofString "--" ∉ pre)
    (hlast : ∀ a ∈ pre.getLast?, a ≠ .ofString "-t" ∧ a ≠ .ofString "--timeout")
    (hv : v = .ofString "-v" ∨ v = .ofString "--verbose") :
    parse d (pre ++ v :: post) = .ok { i with verbose := true } := by
  obtain ⟨t, s, host, ht, hs, hhost, rfl⟩ := parse_eq_ok.1 h
  obtain ⟨r, hr, hends⟩ := Reading.ends_append.1 ⟨t, ht, hs⟩
  have hfalse := hends.verbose_eq_false hquiet
  have hescaped := Reading.escaped_of_takeAll hdashes hr rfl
  have hidle := Reading.awaiting_of_takeAll hdashes hlast hr hfalse
  obtain ⟨q, hq, hends⟩ := hends.settled hidle
  have htake := Reading.take_verbose hd hv hescaped hq (hends.verbose_eq_false hquiet)
  have hloud : Reading.Ends d (pre ++ v :: post) {} s.louder :=
    Reading.ends_append.2 ⟨r, hr, Reading.ends_cons.2 ⟨_, htake, hends.louder hquiet⟩⟩
  obtain ⟨t', ht', hs'⟩ := hloud
  exact parse_eq_ok.2 ⟨t', s.louder, host, ht', hs', hhost, rfl⟩

/-- Only the host and the timeout can be asked for. -/
theorem settings_of_parse (h : parse d arguments = .ok i) :
    ∃ host timeout, i.settings = { host, port := 502, unit := 1, address := 103, timeout } := by
  obtain ⟨r, s, host, hr, hs, hhost, rfl⟩ := parse_eq_ok.1 h
  exact ⟨host, s.timeout.getD 3000, rfl⟩

end Invocation

end CoilProbe
