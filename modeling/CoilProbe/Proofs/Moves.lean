import CoilProbe.CommandLine.Invocation
import CoilProbe.Insist
import Mathlib.Tactic.Common

/-!
# What arguments do

An argument that is accepted does one thing after the other to what has been read before it: a row
of short options may carry out several. `Argument.Means` says what, without reading it, and
`Reading.take_eq_ok` that reading an argument comes to doing what it means. What all arguments
preserve is then a matter of a few kinds of `Move`.
-/

namespace CoilProbe

/-- What is looked up by a key that tells all apart is there, and has the key. -/
theorem find?_key_eq_some_iff {α β : Type} [DecidableEq β] {key : α → β}
    (hkey : Function.Injective key) {xs : List α} {k : β} {a : α} :
    xs.find? (fun a => key a = k) = some a ↔ a ∈ xs ∧ key a = k := by
  constructor
  · intro h
    have hk := List.find?_some h
    exact ⟨List.mem_of_find?_eq_some h, of_decide_eq_true hk⟩
  · rintro ⟨hmem, hk⟩
    cases hfind : xs.find? (fun a => key a = k) with
    | none =>
      have hother := List.find?_eq_none.1 hfind a hmem
      exact absurd (decide_eq_true hk) hother
    | some b =>
      have hb := List.find?_some hfind
      rw [hkey ((of_decide_eq_true hb).trans hk.symm)]

namespace Flag

theorem short_injective : Function.Injective short := by
  intro f g h
  cases f <;> cases g <;> first | rfl | exact absurd h (by decide)

theorem long_injective : Function.Injective fun f => Argument.ofString (long f) := by
  intro f g h
  cases f <;> cases g <;> first | rfl | exact absurd h (by decide)

theorem find?_short {d : Dialect} {f : Flag} (hf : f ∈ d.flags) :
    d.flags.find? (fun g => g.short = f.short) = some f :=
  (find?_key_eq_some_iff short_injective).2 ⟨hf, rfl⟩

theorem find?_long {d : Dialect} {f : Flag} (hf : f ∈ d.flags) :
    d.flags.find? (fun g => Argument.ofString g.long = Argument.ofString f.long) = some f :=
  (find?_key_eq_some_iff long_injective).2 ⟨hf, rfl⟩

end Flag

/-! ## Moves -/

/-- What an argument does to a reading. -/
inductive Move where
  /-- It ends the options. -/
  | escape
  /-- It is the value that the timeout option waits for. -/
  | value (a : Argument)
  /-- It is the host. -/
  | host (a : Argument)
  /-- It is an option without a value. -/
  | flag (f : Flag)
  /-- It is the timeout option with its value. -/
  | timeout (value : Argument)

/-- Carries out a move. -/
def Move.run : Move → Reading → Parsing Reading
  | .escape, r => .ok { r with escaped := true }
  | .value a, r => .ok { r with pending := some (.timeout a) }
  | .host a, r => r.takeHost a
  | .flag f, r => r.carryOut f
  | .timeout v, r => r.takeTimeout v

/-- Carries out moves. -/
def Move.runAll : List Move → Reading → Parsing Reading
  | [], r => .ok r
  | m :: ms, r => do runAll ms (← m.run r)

/-- What a row of short options does. -/
inductive RowMeans (d : Dialect) : Argument → List Move → Prop
  | done : RowMeans d [] []
  | flag {f : Flag} (hf : f ∈ d.flags) (hvalue : f ≠ .timeout) {row : Argument} {ms : List Move}
      (h : RowMeans d row ms) : RowMeans d (some f.short :: row) (.flag f :: ms)
  | wait (hd : .timeout ∈ d.flags) :
      RowMeans d [some Flag.timeout.short] [.flag .timeout]
  | equals (hd : .timeout ∈ d.flags) (value : Argument) :
      RowMeans d (some Flag.timeout.short :: some '=' :: value) [.timeout value]
  | timeout (hd : .timeout ∈ d.flags) {g : Glyph} (hg : g ≠ some '=') (value : Argument) :
      RowMeans d (some Flag.timeout.short :: g :: value) [.timeout (g :: value)]

/-- What an argument does, after the end of the options or before it, and with the timeout option
waiting for its value or not. -/
inductive Argument.Means (d : Dialect) :
    (escaped awaited : Bool) → Argument → List Move → Prop
  | late {awaited : Bool} (a : Argument) : Means d true awaited a [.host a]
  | dashes {awaited : Bool} : Means d false awaited [some '-', some '-'] [.escape]
  | flag {awaited : Bool} {g : Glyph} {option : Argument} {f : Flag} (hf : f ∈ d.flags)
      (hoption : splitValue (g :: option) = (ofString f.long, none)) :
      Means d false awaited (some '-' :: some '-' :: g :: option) [.flag f]
  | timeout {awaited : Bool} {g : Glyph} {option value : Argument} (hd : .timeout ∈ d.flags)
      (hoption : splitValue (g :: option) = (ofString Flag.timeout.long, some value)) :
      Means d false awaited (some '-' :: some '-' :: g :: option) [.timeout value]
  | row {awaited : Bool} {g : Glyph} (hg : g ≠ some '-') {row : Argument} {ms : List Move}
      (h : RowMeans d (g :: row) ms) : Means d false awaited (some '-' :: g :: row) ms
  | value {a : Argument} (ha : ∀ g row, a ≠ some '-' :: g :: row) : Means d false true a [.value a]
  | host {a : Argument} (ha : ∀ g row, a ≠ some '-' :: g :: row) : Means d false false a [.host a]

namespace Reading

variable {d : Dialect} {a : Argument} {r r' : Reading}

/-- Whether the timeout option waits for its value. -/
def awaiting (r : Reading) : Bool := r.pending = some .option

theorem runAll_singleton (m : Move) (r : Reading) : Move.runAll [m] r = m.run r := by
  rw [Move.runAll]
  cases m.run r <;> rfl

/-! ## Reading an argument -/

theorem take_of_escaped (hescaped : r.escaped = true) : r.take d a = r.takeHost a :=
  if_pos hescaped

theorem take_dashes (hescaped : ¬r.escaped = true) :
    r.take d [some '-', some '-'] = .ok { r with escaped := true } :=
  if_neg hescaped

theorem take_long (hescaped : ¬r.escaped = true) {g : Glyph} {option : Argument} :
    r.take d (some '-' :: some '-' :: g :: option) =
      r.takeLong d (Argument.splitValue (g :: option)).1 (Argument.splitValue (g :: option)).2 :=
  if_neg hescaped

theorem take_short (hescaped : ¬r.escaped = true) {g : Glyph} (hg : g ≠ some '-')
    {row : Argument} : r.take d (some '-' :: g :: row) = takeShort d (g :: row) r := by
  rw [take, if_neg hescaped]
  · exact fun h _ => hg h
  · exact hg

theorem take_plain (hescaped : ¬r.escaped = true) (ha : ∀ g row, a ≠ some '-' :: g :: row) :
    r.take d a = if r.pending = some .option then .ok { r with pending := some (.timeout a) }
      else r.takeHost a := by
  rw [take, if_neg hescaped]
  · exact ha _ _
  · exact ha _
  · exact ha

theorem takeLong_eq_ok {name : Argument} {value : Option Argument} :
    r.takeLong d name value = .ok r' ↔
      ∃ f ∈ d.flags, name = Argument.ofString f.long ∧
        ((value = none ∧ r.carryOut f = .ok r') ∨
          ∃ v, f = .timeout ∧ value = some v ∧ r.takeTimeout v = .ok r') := by
  constructor
  · intro h
    unfold takeLong at h
    split at h
    · cases h
    · rename_i f hfind
      obtain ⟨hf, hname⟩ := (find?_key_eq_some_iff Flag.long_injective).1 hfind
      exact ⟨f, hf, hname.symm, .inl ⟨rfl, h⟩⟩
    · rename_i v hfind
      obtain ⟨hf, hname⟩ := (find?_key_eq_some_iff Flag.long_injective).1 hfind
      exact ⟨.timeout, hf, hname.symm, .inr ⟨v, rfl, rfl, h⟩⟩
    · cases h
  · rintro ⟨f, hf, rfl, ⟨rfl, h⟩ | ⟨v, rfl, rfl, h⟩⟩
    · simpa only [takeLong, Flag.find?_long hf] using h
    · simpa only [takeLong, Flag.find?_long hf] using h

theorem takeShort_flag {f : Flag} (hf : f ∈ d.flags) (hvalue : f ≠ .timeout) (row : Argument)
    (r : Reading) :
    takeShort d (some f.short :: row) r = r.carryOut f >>= takeShort d row := by
  unfold takeShort
  simp only [Flag.find?_short hf]

theorem takeShort_wait (hd : .timeout ∈ d.flags) (r : Reading) :
    takeShort d [some Flag.timeout.short] r = r.carryOut .timeout := by
  unfold takeShort
  simp only [Flag.find?_short hd]

theorem takeShort_equals (hd : .timeout ∈ d.flags) (value : Argument) (r : Reading) :
    takeShort d (some Flag.timeout.short :: some '=' :: value) r = r.takeTimeout value := by
  unfold takeShort
  simp only [Flag.find?_short hd]

theorem takeShort_timeout (hd : .timeout ∈ d.flags) {g : Glyph} (hg : g ≠ some '=')
    (value : Argument) (r : Reading) :
    takeShort d (some Flag.timeout.short :: g :: value) r = r.takeTimeout (g :: value) := by
  unfold takeShort
  simp only [Flag.find?_short hd]
  split
  · rename_i hrest
    cases hrest
  · rename_i hrest
    cases hrest
    exact absurd rfl hg
  · rfl

theorem exists_rowMeans {row : Argument} (h : takeShort d row r = .ok r') :
    ∃ ms, RowMeans d row ms ∧ Move.runAll ms r = .ok r' := by
  induction row generalizing r with
  | nil => exact ⟨[], .done, h⟩
  | cons g rest ih =>
    cases g with
    | none => cases h
    | some c =>
      cases hfind : d.flags.find? (fun f => f.short = c) with
      | none =>
        unfold takeShort at h
        simp only [hfind] at h
        cases h
      | some f =>
        obtain ⟨hf, rfl⟩ := (find?_key_eq_some_iff Flag.short_injective).1 hfind
        by_cases hvalue : f = .timeout
        · subst hvalue
          -- the option takes what is left of the row
          cases rest with
          | nil =>
            rw [takeShort_wait hf] at h
            exact ⟨_, .wait hf, (runAll_singleton (.flag .timeout) r).trans h⟩
          | cons g value =>
            by_cases hg : g = some '='
            · subst hg
              rw [takeShort_equals hf] at h
              exact ⟨_, .equals hf value, (runAll_singleton (.timeout value) r).trans h⟩
            · rw [takeShort_timeout hf hg] at h
              exact ⟨_, .timeout hf hg value, (runAll_singleton (.timeout (g :: value)) r).trans h⟩
        · rw [takeShort_flag hf hvalue] at h
          obtain ⟨s, hs, hrest⟩ := bind_eq_ok.1 h
          obtain ⟨ms, hms, hrun⟩ := ih hrest
          exact ⟨_, .flag hf hvalue hms, bind_eq_ok.2 ⟨s, hs, hrun⟩⟩

theorem takeShort_of_rowMeans {row : Argument} {ms : List Move} (hms : RowMeans d row ms)
    (h : Move.runAll ms r = .ok r') : takeShort d row r = .ok r' := by
  induction hms generalizing r with
  | done => exact h
  | flag hf hvalue _ ih =>
    obtain ⟨s, hs, hrest⟩ := bind_eq_ok.1 h
    rw [takeShort_flag hf hvalue]
    exact bind_eq_ok.2 ⟨s, hs, ih hrest⟩
  | wait hd =>
    rw [takeShort_wait hd]
    exact (runAll_singleton (.flag .timeout) r).symm.trans h
  | equals hd value =>
    rw [takeShort_equals hd]
    exact (runAll_singleton (.timeout value) r).symm.trans h
  | timeout hd hg value =>
    rw [takeShort_timeout hd hg]
    exact (runAll_singleton (.timeout _) r).symm.trans h

theorem exists_means (h : r.take d a = .ok r') :
    ∃ ms, a.Means d r.escaped r.awaiting ms ∧ Move.runAll ms r = .ok r' := by
  by_cases hescaped : r.escaped = true
  · rw [take_of_escaped hescaped] at h
    rw [hescaped]
    exact ⟨_, .late a, (runAll_singleton (.host a) r).trans h⟩
  rw [Bool.eq_false_iff.2 hescaped]
  by_cases hoption : ∃ g row, a = some '-' :: g :: row
  · obtain ⟨g, row, rfl⟩ := hoption
    by_cases hg : g = some '-'
    · subst hg
      cases row with
      | nil =>
        rw [take_dashes hescaped] at h
        exact ⟨_, .dashes, (runAll_singleton _ r).trans h⟩
      | cons g option =>
        rw [take_long hescaped] at h
        obtain ⟨f, hf, hname, ⟨hvalue, hrun⟩ | ⟨v, rfl, hvalue, hrun⟩⟩ := takeLong_eq_ok.1 h
        · exact ⟨_, .flag hf (Prod.ext hname hvalue), (runAll_singleton _ r).trans hrun⟩
        · exact ⟨_, .timeout hf (Prod.ext hname hvalue), (runAll_singleton _ r).trans hrun⟩
    · rw [take_short hescaped hg] at h
      obtain ⟨ms, hms, hrun⟩ := exists_rowMeans h
      exact ⟨ms, .row hg hms, hrun⟩
  · have ha : ∀ g row, a ≠ some '-' :: g :: row := fun g row ha => hoption ⟨g, row, ha⟩
    rw [take_plain hescaped ha] at h
    by_cases hpending : r.pending = some .option
    · rw [if_pos hpending] at h
      rw [awaiting, decide_eq_true hpending]
      exact ⟨_, .value ha, (runAll_singleton _ r).trans h⟩
    · rw [if_neg hpending] at h
      rw [awaiting, decide_eq_false hpending]
      exact ⟨_, .host ha, (runAll_singleton _ r).trans h⟩

theorem take_of_means {ms : List Move} (hms : a.Means d r.escaped r.awaiting ms)
    (h : Move.runAll ms r = .ok r') : r.take d a = .ok r' := by
  generalize he : r.escaped = escaped, hw : r.awaiting = awaited at hms
  have hopen : escaped = false → ¬r.escaped = true := by
    rintro rfl
    rw [he]
    exact Bool.false_ne_true
  cases hms with
  | late =>
    rw [take_of_escaped he]
    exact (runAll_singleton (.host a) r).symm.trans h
  | dashes =>
    rw [take_dashes (hopen rfl)]
    exact h
  | @flag awaited g option f hf hoption =>
    rw [take_long (hopen rfl), hoption]
    rw [runAll_singleton] at h
    exact takeLong_eq_ok.2 ⟨f, hf, rfl, .inl ⟨rfl, h⟩⟩
  | @timeout awaited g option value hd hoption =>
    rw [take_long (hopen rfl), hoption]
    rw [runAll_singleton] at h
    exact takeLong_eq_ok.2 ⟨.timeout, hd, rfl, .inr ⟨value, rfl, rfl, h⟩⟩
  | row hg hrow =>
    rw [take_short (hopen rfl) hg]
    exact takeShort_of_rowMeans hrow h
  | value ha =>
    rw [take_plain (hopen rfl) ha, if_pos (of_decide_eq_true hw)]
    exact h
  | host ha =>
    rw [take_plain (hopen rfl) ha, if_neg (of_decide_eq_false hw)]
    exact (runAll_singleton (.host a) r).symm.trans h

/-- Reading an argument is doing what it means. -/
theorem take_eq_ok : r.take d a = .ok r' ↔
    ∃ ms, a.Means d r.escaped r.awaiting ms ∧ Move.runAll ms r = .ok r' :=
  ⟨exists_means, fun ⟨_, hms, h⟩ => take_of_means hms h⟩

/-! ## Looking at what is pending -/

/-- A reading with other marks. -/
def marked (escaped verbose : Bool) (r : Reading) : Reading :=
  { r with escaped := escaped, verbose := verbose }

variable {s : Reading} {escaped verbose : Bool}

/-- The marks have no part in looking at a value. -/
theorem setTimeout_marked (value : Argument) (r : Reading) :
    (r.marked escaped verbose).setTimeout value =
      (r.setTimeout value).map (marked escaped verbose) := by
  unfold setTimeout marked
  split
  · rfl
  · split
    · rfl
    · split <;> rfl

theorem settle_marked (r : Reading) :
    (r.marked escaped verbose).settle = r.settle.map (marked escaped verbose) := by
  cases hpending : r.pending with
  | none => simp only [settle, marked, hpending, Except.map]
  | some pending =>
    cases pending with
    | option =>
      simp only [settle, marked, hpending]
      rfl
    | timeout value =>
      simp only [settle, hpending, ← setTimeout_marked]
      rw [marked, hpending]
      rfl
    | host value =>
      simp only [settle, marked, hpending]
      cases value.chars? <;> rfl

theorem marks_of_map {x : Parsing Reading} (hx : x.map (marked escaped verbose) = x)
    (h : x = .ok s) : s.escaped = escaped ∧ s.verbose = verbose := by
  rw [h] at hx
  have hs : s.marked escaped verbose = s := Except.ok.inj hx
  have hescaped : escaped = s.escaped := (congrArg Reading.escaped hs :)
  have hverbose : verbose = s.verbose := (congrArg Reading.verbose hs :)
  exact ⟨hescaped.symm, hverbose.symm⟩

/-- Looking at what is pending leaves the marks alone. -/
theorem marks_of_settle (h : r.settle = .ok s) :
    s.escaped = r.escaped ∧ s.verbose = r.verbose :=
  marks_of_map (settle_marked r).symm h

theorem pending_of_setTimeout {value : Argument} (h : r.setTimeout value = .ok s) :
    s.pending = r.pending ∧ s.host = r.host := by
  unfold setTimeout at h
  split at h
  · cases h
  · split at h
    · cases h
    · split at h <;> cases h
      exact ⟨rfl, rfl⟩

/-- After looking at what is pending nothing is, and a host has been given if one had been. -/
theorem pending_of_settle (h : r.settle = .ok s) :
    s.pending = none ∧ s.hostGiven = r.hostGiven := by
  unfold settle at h
  split at h
  · rename_i hpending
    cases h
    exact ⟨hpending, rfl⟩
  · cases h
  · rename_i value hpending
    obtain ⟨hnone, hhost⟩ := pending_of_setTimeout h
    have hnone : s.pending = none := hnone
    refine ⟨hnone, ?_⟩
    simp only [hostGiven, hnone, hpending, hhost]
  · rename_i value hpending
    split at h <;> cases h
    simp only [hostGiven, hpending, Option.isSome_some, true_and]

theorem settle_of_settle (h : r.settle = .ok s) : s.settle = .ok s := by
  rw [settle, (pending_of_settle h).1]

theorem awaiting_of_settle (h : r.settle = .ok s) : r.awaiting = false ∧ s.awaiting = false := by
  constructor
  · refine decide_eq_false fun hpending => ?_
    rw [settle, hpending] at h
    cases h
  · rw [awaiting, (pending_of_settle h).1]
    rfl

end Reading

/-! ## What moves leave alone -/

namespace Move

open Reading

variable {m : Move} {ms : List Move} {r r' s : Reading} {escaped verbose : Bool}

/-- Whether a move looks at what is pending first. -/
def looks : Move → Bool
  | .escape | .value _ => false
  | .host _ | .flag _ | .timeout _ => true

/-- Such a move does the same after what is pending has been looked at. -/
theorem run_eq_ok_of_looks (h : m.looks = true) :
    m.run r = .ok r' ↔ ∃ s, r.settle = .ok s ∧ m.run s = .ok r' := by
  have hbind (k : Reading → Parsing Reading) :
      r.settle >>= k = .ok r' ↔ ∃ s, r.settle = .ok s ∧ s.settle >>= k = .ok r' := by
    rw [bind_eq_ok]
    refine exists_congr fun s => and_congr_right fun hs => ?_
    rw [settle_of_settle hs]
    rfl
  cases m with
  | escape | value => cases h
  | host a =>
    show r.takeHost a = .ok r' ↔ ∃ s, r.settle = .ok s ∧ s.takeHost a = .ok r'
    simp only [takeHost]
    by_cases hgiven : r.hostGiven = true
    · rw [if_pos hgiven]
      refine ⟨nofun, ?_⟩
      rintro ⟨s, hs, hrun⟩
      rw [(pending_of_settle hs).2, if_pos hgiven] at hrun
      exact hrun
    · rw [if_neg hgiven]
      refine (hbind _).trans (exists_congr fun s => and_congr_right fun hs => ?_)
      rw [(pending_of_settle hs).2, if_neg hgiven]
  | flag f => exact hbind _
  | timeout v => exact hbind _

/-- The marks have no part in a move that does not set them. -/
theorem run_marked (hescape : m ≠ .escape) (hverbose : m ≠ .flag .verbose) (r : Reading) :
    m.run (r.marked escaped verbose) = (m.run r).map (marked escaped verbose) := by
  cases m with
  | escape => exact absurd rfl hescape
  | value a => rfl
  | host a =>
    simp only [run, takeHost, settle_marked]
    show (if r.hostGiven then _ else _) = _
    split
    · rfl
    · cases r.settle <;> rfl
  | flag f =>
    simp only [run, carryOut, settle_marked]
    cases r.settle with
    | error e => rfl
    | ok s =>
      cases f with
      | verbose => exact absurd rfl hverbose
      | timeout | help | version => rfl
  | timeout v =>
    simp only [run, takeTimeout, settle_marked]
    cases r.settle with
    | error e => rfl
    | ok s => exact setTimeout_marked v s

theorem run_verbose_eq_ok : (Move.flag .verbose).run r = .ok r' ↔
    ∃ s, r.settle = .ok s ∧ s.verbose = false ∧ r' = s.marked s.escaped true := by
  refine bind_eq_ok.trans (exists_congr fun s => and_congr_right fun _ => ?_)
  dsimp only
  by_cases hv : s.verbose = true
  · rw [if_pos hv, hv]
    exact ⟨nofun, nofun⟩
  · rw [if_neg hv, Bool.eq_false_iff.2 hv]
    exact ⟨fun h => ⟨rfl, (Except.ok.inj h).symm⟩, fun h => congrArg Except.ok h.2.symm⟩

theorem marks_of_run (hescape : m ≠ .escape) (hverbose : m ≠ .flag .verbose)
    (h : m.run r = .ok r') : r'.escaped = r.escaped ∧ r'.verbose = r.verbose :=
  marks_of_map (run_marked hescape hverbose r).symm h

theorem escaped_of_run (hescape : m ≠ .escape) (h : m.run r = .ok r') :
    r'.escaped = r.escaped := by
  by_cases hverbose : m = .flag .verbose
  · subst hverbose
    obtain ⟨s, hs, -, rfl⟩ := run_verbose_eq_ok.1 h
    exact (marks_of_settle hs).1
  · exact (marks_of_run hescape hverbose h).1

/-- More of the journal is shown after a move exactly if it was before or the move says so. -/
theorem verbose_of_run (h : m.run r = .ok r') :
    r'.verbose = true ↔ r.verbose = true ∨ m = .flag .verbose := by
  by_cases hverbose : m = .flag .verbose
  · subst hverbose
    obtain ⟨s, -, -, rfl⟩ := run_verbose_eq_ok.1 h
    exact ⟨fun _ => .inr rfl, fun _ => rfl⟩
  · rw [or_iff_left hverbose]
    by_cases hescape : m = .escape
    · subst hescape
      cases h
      exact Iff.rfl
    · rw [(marks_of_run hescape hverbose h).2]

/-- Only the timeout option without a value in its own argument waits for one. -/
theorem awaiting_of_run (hescape : m ≠ .escape) (h : m.run r = .ok r')
    (hawaiting : r'.awaiting = true) : m = .flag .timeout := by
  have hpending : r'.pending = some .option := of_decide_eq_true hawaiting
  cases m with
  | escape => exact absurd rfl hescape
  | value a =>
    cases h
    cases hpending
  | host a =>
    by_cases hgiven : r.hostGiven = true
    · rw [run, takeHost, if_pos hgiven] at h
      cases h
    · rw [run, takeHost, if_neg hgiven] at h
      obtain ⟨s, -, h⟩ := bind_eq_ok.1 h
      cases h
      cases hpending
  | flag f =>
    obtain ⟨s, hs, h⟩ := bind_eq_ok.1 h
    cases f with
    | timeout => rfl
    | help | version => cases h
    | verbose =>
      simp only at h
      split at h <;> cases h
      have hnone : s.pending = some .option := hpending
      rw [(pending_of_settle hs).1] at hnone
      cases hnone
  | timeout v =>
    obtain ⟨s, hs, h⟩ := bind_eq_ok.1 h
    rw [(pending_of_setTimeout h).1, (pending_of_settle hs).1] at hpending
    cases hpending

/-! ## What rows of moves leave alone -/

theorem runAll_cons : runAll (m :: ms) r = .ok r' ↔
    ∃ s, m.run r = .ok s ∧ runAll ms s = .ok r' := bind_eq_ok

theorem runAll_eq_ok_of_looks (h : m.looks = true) : runAll (m :: ms) r = .ok r' ↔
    ∃ s, r.settle = .ok s ∧ runAll (m :: ms) s = .ok r' := by
  constructor
  · intro hrun
    obtain ⟨t, ht, hrun⟩ := runAll_cons.1 hrun
    obtain ⟨s, hs, ht⟩ := (run_eq_ok_of_looks h).1 ht
    exact ⟨s, hs, runAll_cons.2 ⟨t, ht, hrun⟩⟩
  · rintro ⟨s, hs, hrun⟩
    obtain ⟨t, ht, hrun⟩ := runAll_cons.1 hrun
    exact runAll_cons.2 ⟨t, (run_eq_ok_of_looks h).2 ⟨s, hs, ht⟩, hrun⟩

theorem runAll_marked (hescape : .escape ∉ ms) (hverbose : .flag .verbose ∉ ms) (r : Reading) :
    runAll ms (r.marked escaped verbose) = (runAll ms r).map (marked escaped verbose) := by
  induction ms generalizing r with
  | nil => rfl
  | cons m ms ih =>
    obtain ⟨hm, hms⟩ := not_or.1 (List.mem_cons.not.1 hescape)
    obtain ⟨hm', hms'⟩ := not_or.1 (List.mem_cons.not.1 hverbose)
    rw [runAll, runAll, run_marked (Ne.symm hm) (Ne.symm hm')]
    cases m.run r with
    | error stop => rfl
    | ok s => exact ih hms hms' s

theorem escaped_of_runAll (hescape : .escape ∉ ms) (h : runAll ms r = .ok r') :
    r'.escaped = r.escaped := by
  induction ms generalizing r with
  | nil =>
    cases h
    rfl
  | cons m ms ih =>
    obtain ⟨hm, hms⟩ := not_or.1 (List.mem_cons.not.1 hescape)
    obtain ⟨s, hs, h⟩ := runAll_cons.1 h
    rw [ih hms h, escaped_of_run (Ne.symm hm) hs]

theorem verbose_of_runAll (h : runAll ms r = .ok r') :
    r'.verbose = true ↔ r.verbose = true ∨ .flag .verbose ∈ ms := by
  induction ms generalizing r with
  | nil =>
    cases h
    simp
  | cons m ms ih =>
    obtain ⟨s, hs, h⟩ := runAll_cons.1 h
    rw [ih h, verbose_of_run hs, List.mem_cons, or_assoc, eq_comm (a := m)]

theorem awaiting_of_runAll (hescape : .escape ∉ ms) (hne : ms ≠ []) (h : runAll ms r = .ok r')
    (hawaiting : r'.awaiting = true) : .flag .timeout ∈ ms := by
  induction ms generalizing r with
  | nil => exact absurd rfl hne
  | cons m ms ih =>
    obtain ⟨hm, hms⟩ := not_or.1 (List.mem_cons.not.1 hescape)
    obtain ⟨s, hs, h⟩ := runAll_cons.1 h
    cases ms with
    | nil =>
      cases h
      rw [awaiting_of_run (Ne.symm hm) hs hawaiting]
      exact List.mem_cons_self
    | cons m' ms => exact List.mem_cons_of_mem _ (ih hms (List.cons_ne_nil _ _) h)

/-- Only two of the options are carried out. -/
theorem flag_of_runAll {f : Flag} (hf : .flag f ∈ ms) (h : runAll ms r = .ok r') :
    f = .verbose ∨ f = .timeout := by
  induction ms generalizing r with
  | nil => cases hf
  | cons m ms ih =>
    obtain ⟨s, hs, h⟩ := runAll_cons.1 h
    rcases List.mem_cons.1 hf with rfl | hf
    · obtain ⟨t, -, hs⟩ := bind_eq_ok.1 hs
      cases f with
      | verbose => exact .inl rfl
      | timeout => exact .inr rfl
      | help | version => cases hs
    · exact ih hf h

end Move

/-! ## What arguments mean -/

section Means

variable {d d' : Dialect} {e w : Bool} {a row : Argument} {ms : List Move}

theorem RowMeans.of_subset (hd : d.flags ⊆ d'.flags) (h : RowMeans d row ms) :
    RowMeans d' row ms := by
  induction h with
  | done => exact .done
  | flag hf hvalue _ ih => exact .flag (hd hf) hvalue ih
  | wait ht => exact .wait (hd ht)
  | equals ht value => exact .equals (hd ht) value
  | timeout ht hg value => exact .timeout (hd ht) hg value

/-- What is meant does not depend on options that are not used. -/
theorem Argument.Means.of_subset (hd : d.flags ⊆ d'.flags) (h : a.Means d e w ms) :
    a.Means d' e w ms := by
  cases h with
  | late => exact .late a
  | dashes => exact .dashes
  | flag hf hoption => exact .flag (hd hf) hoption
  | timeout ht hoption => exact .timeout (hd ht) hoption
  | row hg hrow => exact .row hg (hrow.of_subset hd)
  | value ha => exact .value ha
  | host ha => exact .host ha

theorem RowMeans.mem_flags (h : RowMeans d row ms) {f : Flag} (hf : .flag f ∈ ms) :
    f ∈ d.flags := by
  induction h with
  | done => cases hf
  | flag hg _ _ ih =>
    rcases List.mem_cons.1 hf with heq | hf
    · cases heq
      exact hg
    · exact ih hf
  | wait ht =>
    cases List.mem_singleton.1 hf
    exact ht
  | equals | timeout => cases List.mem_singleton.1 hf

theorem Argument.Means.mem_flags (h : a.Means d e w ms) {f : Flag} (hf : .flag f ∈ ms) :
    f ∈ d.flags := by
  cases h with
  | flag hg =>
    cases List.mem_singleton.1 hf
    exact hg
  | row hg hrow => exact hrow.mem_flags hf
  | late | dashes | timeout | value | host => cases List.mem_singleton.1 hf

theorem RowMeans.looks (h : RowMeans d row ms) : ∀ m ∈ ms, m.looks = true := by
  induction h with
  | done => exact List.forall_mem_nil _
  | flag _ _ _ ih => exact List.forall_mem_cons.2 ⟨rfl, ih⟩
  | wait | equals | timeout => exact List.forall_mem_singleton.2 rfl

theorem RowMeans.ne_nil {g : Glyph} (h : RowMeans d (g :: row) ms) : ms ≠ [] := by
  cases h <;> exact List.cons_ne_nil _ _

/-- Two dashes end the options. All else begins by looking at what is pending, unless it is the
value that is awaited. -/
theorem Argument.Means.cases_looks (h : a.Means d e false ms) :
    (a = ofString "--" ∧ ms = [.escape]) ∨
      ∃ m later, ms = m :: later ∧ ∀ m ∈ ms, m.looks = true := by
  cases h with
  | dashes => exact .inl ⟨rfl, rfl⟩
  | late | flag | timeout | host => exact .inr ⟨_, _, rfl, List.forall_mem_singleton.2 rfl⟩
  | row hg hrow =>
    cases ms with
    | nil => exact absurd rfl hrow.ne_nil
    | cons m later => exact .inr ⟨m, later, rfl, hrow.looks⟩

theorem Argument.Means.eq_dashes (h : a.Means d e w ms) (hescape : .escape ∈ ms) :
    a = ofString "--" ∧ ms = [.escape] := by
  cases h with
  | dashes => exact ⟨rfl, rfl⟩
  | row hg hrow => cases hrow.looks _ hescape
  | late | flag | timeout | value | host => cases List.mem_singleton.1 hescape

theorem Argument.Means.ne_nil (h : a.Means d e w ms) : ms ≠ [] := by
  cases h with
  | row hg hrow => exact hrow.ne_nil
  | late | dashes | flag | timeout | value | host => exact List.cons_ne_nil _ _

theorem Argument.splitValue_eq_none {name : Argument} (h : splitValue a = (name, none)) :
    a = name := by
  induction a generalizing name with
  | nil =>
    cases h
    rfl
  | cons g rest ih =>
    unfold splitValue at h
    split at h
    · rename_i heq
      cases heq
    · cases h
    · rename_i heq
      cases heq
      obtain ⟨hname, hvalue⟩ := Prod.mk.inj h
      have hrest : rest = (splitValue rest).1 := ih (Prod.ext rfl hvalue)
      exact hname ▸ congrArg (g :: ·) hrest

/-- Only the timeout option without a value waits for one. -/
theorem Argument.Means.eq_timeout (h : a.Means d e w ms) (hwait : .flag .timeout ∈ ms)
    (halone : ∀ f, .flag f ∈ ms → f = .timeout) :
    a = ofString "-t" ∨ a = ofString "--timeout" := by
  cases h with
  | flag hf hoption =>
    cases List.mem_singleton.1 hwait
    rw [splitValue_eq_none hoption]
    exact .inr rfl
  | row hg hrow =>
    cases hrow with
    | flag _ hvalue _ => exact absurd (halone _ List.mem_cons_self) hvalue
    | wait => exact .inl rfl
    | equals | timeout => cases List.mem_singleton.1 hwait
  | late | dashes | timeout | value | host => cases List.mem_singleton.1 hwait

end Means

end CoilProbe
