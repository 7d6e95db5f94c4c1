import CoilProbe.Proofs.Glyphs
import CoilProbe.Proofs.Invocations
import CoilProbe.Proofs.Numerals

/-!
# The grammar of the command line

A command line that only has settings is made of items, each of which is a host or a timeout, and
perhaps of the end of the options and hosts that may then be anything: `CommandLine.Holds`. Reading
an item puts it in its place, if that is free: `Item.Put`. So there is one host and at most one
timeout in a command line that is accepted, and `Invocation.parse_iff_spelled` says that exactly
these command lines are, and which settings they ask for.
-/

namespace CoilProbe

/-! ## How a command line is written -/

/-- A part of a command line that stands for one thing. -/
inductive Item where
  | host (text : String)
  | timeout (value : UInt64)

namespace Item

def host? : Item → Option String
  | host text => some text
  | timeout _ => none

def timeout? : Item → Option UInt64
  | host _ => none
  | timeout value => some value

/-- How an item is written before the end of the options. -/
inductive Spelled : Item → List String → Prop
  | host {text : String} (hplain : text = "-" ∨ text.toList.head? ≠ some '-') :
      Spelled (host text) [text]
  | apart {flag number : String} {n : UInt64} (hflag : flag = "-t" ∨ flag = "--timeout")
      (hn : SpellsNumber n number.toList) : Spelled (timeout n) [flag, number]
  | together {flag number : String} {n : UInt64}
      (hflag : flag = "-t" ∨ flag = "-t=" ∨ flag = "--timeout=")
      (hn : SpellsNumber n number.toList) : Spelled (timeout n) [flag ++ number]

end Item

/-- Which hosts and which timeouts a command line holds: those of its items and, after the end of
the options, nothing but hosts. -/
inductive CommandLine.Holds : List String → List UInt64 → List String → Prop
  | nothing : Holds [] [] []
  | late (hosts : List String) : Holds hosts [] ("--" :: hosts)
  | item {item : Item} {part hosts texts : List String} {timeouts : List UInt64}
      (hitem : item.Spelled part) (h : Holds hosts timeouts texts) :
      Holds (item.host?.toList ++ hosts) (item.timeout?.toList ++ timeouts) (part ++ texts)

/-! ## Arguments that are text -/

namespace Argument

variable {a b : Argument} {text : String} {cs : List Char}

theorem chars?_eq_some : chars? a = some cs ↔ a = ofString (String.ofList cs) := by
  rw [ofString, String.toList_ofList]
  induction a generalizing cs with
  | nil =>
    cases cs <;> simp [chars?]
  | cons g rest ih =>
    cases g with
    | none => cases cs <;> simp [chars?]
    | some c =>
      rw [chars?, Option.map_eq_some_iff]
      constructor
      · rintro ⟨cs', hrest, rfl⟩
        rw [ih.1 hrest, List.map_cons]
      · intro h
        cases cs with
        | nil => cases h
        | cons c' cs' =>
          obtain ⟨hc, hrest⟩ := List.cons.inj h
          exact ⟨cs', ih.2 hrest, by rw [Option.some.inj hc]⟩

theorem ofString_append (text more : String) :
    ofString (text ++ more) = ofString text ++ ofString more := by
  rw [ofString, String.toList_append, List.map_append]
  rfl

theorem splitValue_eq_some {name value : Argument} (h : splitValue a = (name, some value)) :
    a = name ++ some '=' :: value := by
  induction a generalizing name with
  | nil => cases h
  | cons g rest ih =>
    unfold splitValue at h
    split at h
    · rename_i heq
      cases heq
    · rename_i heq
      cases h
      exact heq
    · rename_i heq
      cases heq
      obtain ⟨hname, hvalue⟩ := Prod.mk.inj h
      rw [← hname, List.cons_append, ← ih (Prod.ext rfl hvalue)]

/-- What the reading takes for a host or a value before the end of the options. -/
theorem plain_iff : (∀ g row, ofString text ≠ some '-' :: g :: row) ↔
    text = "-" ∨ text.toList.head? ≠ some '-' := by
  rw [ofString, String.ext_iff]
  rcases text.toList with _ | ⟨c, _ | ⟨c', cs⟩⟩
  · exact ⟨fun _ => .inr nofun, fun _ => nofun⟩
  · refine ⟨fun _ => ?_, fun _ => nofun⟩
    by_cases hc : c = '-'
    · exact .inl (by rw [hc]; rfl)
    · exact .inr fun h => hc (Option.some.inj h)
  · constructor
    · intro h
      refine .inr fun hc => h (some c') (cs.map some) ?_
      rw [Option.some.inj hc]
      rfl
    · rintro (h | h) g row heq
      · cases h
      · exact h (List.cons.inj heq).1

end Argument

/-! ## Items in their places -/

theorem eq_of_toList {α : Type} {place place' : Option α}
    (h : place'.toList = place.toList ++ []) : place' = place := by
  rw [List.append_nil] at h
  cases place <;> cases place' <;> cases h <;> rfl

/-- A place for one thing has another only if it was free. -/
theorem free_of_toList {α : Type} {place place' : Option α} {a : α} {more : List α}
    (h : place'.toList = place.toList ++ a :: more) : place = none := by
  cases place with
  | none => rfl
  | some b => cases place' <;> cases h

/-- An item is put in its place, which is free. -/
inductive Item.Put : Item → Reading → Reading → Prop
  | host {text : String} {r : Reading} (hidle : r.pending = none) (hfree : r.host = none) :
      Put (.host text) r { r with host := some text }
  | timeout {n : UInt64} {r : Reading} (hidle : r.pending = none) (hfree : r.timeout = none) :
      Put (.timeout n) r { r with timeout := some n }

namespace Item

variable {item : Item} {r t : Reading}

/-- What is in its place is there beside what was there before. -/
theorem Put.adds (h : item.Put r t) : t.pending = none ∧ t.escaped = r.escaped ∧
    t.host.toList = r.host.toList ++ item.host?.toList ∧
    t.timeout.toList = r.timeout.toList ++ item.timeout?.toList := by
  cases h with
  | host hidle hfree => exact ⟨hidle, rfl, by rw [hfree]; rfl, (List.append_nil _).symm⟩
  | timeout hidle hfree => exact ⟨hidle, rfl, (List.append_nil _).symm, by rw [hfree]; rfl⟩

theorem exists_put {host : Option String} {timeout : Option UInt64} {hosts : List String}
    {timeouts : List UInt64} (hidle : r.pending = none)
    (hhost : host.toList = r.host.toList ++ (item.host?.toList ++ hosts))
    (htimeout : timeout.toList = r.timeout.toList ++ (item.timeout?.toList ++ timeouts)) :
    ∃ t, item.Put r t := by
  cases item with
  | host text =>
    exact ⟨_, .host hidle (free_of_toList hhost)⟩
  | timeout n =>
    exact ⟨_, .timeout hidle (free_of_toList htimeout)⟩

end Item

namespace Reading

variable {d : Dialect} {a v : Argument} {arguments rest : List Argument} {r r' s t : Reading}

theorem settle_of_idle (hidle : r.pending = none) : r.settle = .ok r := by
  rw [settle, hidle]

/-- What is pending may be looked at later as well. -/
theorem Ends.of_settle (ht : r.settle = .ok t) (h : Ends d arguments t s) :
    Ends d arguments r s := by
  induction arguments generalizing r t with
  | nil =>
    obtain ⟨u, hu, hs⟩ := h
    cases hu
    rw [settle_of_settle ht] at hs
    cases hs
    exact ⟨r, rfl, ht⟩
  | cons a rest ih =>
    obtain ⟨t', ht', hrest⟩ := ends_cons.1 h
    obtain ⟨ms, hms, hrun⟩ := take_eq_ok.1 ht'
    obtain ⟨hidle, hidle'⟩ := awaiting_of_settle ht
    obtain ⟨hescaped, hverbose⟩ := marks_of_settle ht
    rw [hidle', hescaped] at hms
    have hmeans : a.Means d r.escaped r.awaiting ms := by rwa [hidle]
    rcases hms.cases_looks with ⟨-, rfl⟩ | ⟨m, later, rfl, hlooks⟩
    · cases hrun
      have hmarked : (r.marked true r.verbose).settle = .ok (t.marked true t.verbose) := by
        rw [settle_marked, ht, hverbose]
        rfl
      exact ends_cons.2 ⟨_, take_eq_ok.2 ⟨_, hmeans, rfl⟩, ih hmarked hrest⟩
    · have hrun' := (Move.runAll_eq_ok_of_looks (hlooks m List.mem_cons_self)).2 ⟨t, ht, hrun⟩
      exact ends_cons.2 ⟨t', take_eq_ok.2 ⟨_, hmeans, hrun'⟩, hrest⟩

theorem ends_iff_settled (hidle : r.awaiting = false) :
    Ends d arguments r s ↔ ∃ t, r.settle = .ok t ∧ Ends d arguments t s :=
  ⟨Ends.settled hidle, fun ⟨_, ht, h⟩ => h.of_settle ht⟩

/-! ## Moves of a reading with nothing pending -/

theorem setTimeout_eq_ok (hidle : r.pending = none) : r.setTimeout v = .ok s ↔
    ∃ number n, v = .ofString number ∧ SpellsNumber n number.toList ∧
      (Item.timeout n).Put r s := by
  constructor
  · intro h
    unfold setTimeout at h
    split at h
    · cases h
    · rename_i hgiven
      have hfree : r.timeout = none := Option.not_isSome_iff_eq_none.1 hgiven
      split at h
      · cases h
      · rename_i cs hcs
        split at h <;> cases h
        rename_i n hn
        refine ⟨String.ofList cs, n, Argument.chars?_eq_some.1 hcs, ?_, .timeout hidle hfree⟩
        rw [String.toList_ofList]
        exact readNumber_eq_ok.1 hn
  · rintro ⟨number, n, rfl, hn, hput⟩
    cases hput with
    | timeout _ hfree =>
      have hchars : (Argument.ofString number).chars? = some number.toList := by
        rw [Argument.chars?_eq_some, String.ofList_toList]
      simp only [setTimeout, hfree, hchars, readNumber_eq_ok.2 hn]
      rfl

theorem run_timeout_eq_ok (hidle : r.pending = none) : (Move.timeout v).run r = .ok s ↔
    ∃ number n, v = .ofString number ∧ SpellsNumber n number.toList ∧
      (Item.timeout n).Put r s := by
  rw [← setTimeout_eq_ok hidle, Move.run, takeTimeout, settle_of_idle hidle]
  rfl

theorem run_wait (hidle : r.pending = none) :
    (Move.flag .timeout).run r = .ok { r with pending := some .option } := by
  rw [Move.run, carryOut, settle_of_idle hidle]
  rfl

theorem run_help_ne_ok (hidle : r.pending = none) : (Move.flag .help).run r ≠ .ok s := by
  rw [Move.run, carryOut, settle_of_idle hidle]
  rintro ⟨⟩

theorem settle_host_eq_ok (hidle : r.pending = none) (hfree : r.host = none) :
    { r with pending := some (.host a) }.settle = .ok s ↔
      ∃ text, a = .ofString text ∧ (Item.host text).Put r s := by
  obtain ⟨pending, escaped, host, timeout, verbose⟩ := r
  obtain rfl : pending = none := hidle
  simp only [settle]
  constructor
  · intro h
    split at h
    · cases h
    · rename_i cs hcs
      cases h
      exact ⟨String.ofList cs, Argument.chars?_eq_some.1 hcs, .host rfl hfree⟩
  · rintro ⟨text, rfl, hput⟩
    have hchars : (Argument.ofString text).chars? = some text.toList := by
      rw [Argument.chars?_eq_some, String.ofList_toList]
    cases hput with
    | host => simp only [hchars, String.ofList_toList]

/-- A host is put in its place as soon as it is looked at. -/
theorem ends_host (hidle : r.pending = none) :
    (∃ t, (Move.host a).run r = .ok t ∧ Ends d rest t s) ↔
      ∃ text t, a = .ofString text ∧ (Item.host text).Put r t ∧ Ends d rest t s := by
  have hgiven : r.hostGiven = r.host.isSome := by
    rw [hostGiven, hidle]
  rw [Move.run, takeHost, hgiven, settle_of_idle hidle]
  cases hhost : r.host with
  | some host =>
    constructor
    · rintro ⟨t, ⟨⟩, -⟩
    · rintro ⟨text, t, -, hput, -⟩
      cases hput with
      | host _ hfree =>
        rw [hhost] at hfree
        cases hfree
  | none =>
    have hpending : Ends d rest { r with pending := some (.host a) } s ↔ _ :=
      ends_iff_settled rfl
    simp only [settle_host_eq_ok hidle hhost] at hpending
    constructor
    · rintro ⟨t, ht, h⟩
      cases ht
      obtain ⟨t, ⟨text, ha, hput⟩, h⟩ := hpending.1 h
      exact ⟨text, t, ha, hput, h⟩
    · rintro ⟨text, t, ha, hput, h⟩
      exact ⟨_, rfl, hpending.2 ⟨t, ⟨text, ha, hput⟩, h⟩⟩

/-- Nothing but a value can follow the option that waits for one. -/
theorem runAll_ne_ok_of_awaiting {ms : List Move} (hwait : r.awaiting = true)
    (hlooks : ∀ m ∈ ms, m.looks = true) (hne : ms ≠ []) : Move.runAll ms r ≠ .ok s := by
  intro h
  cases ms with
  | nil => exact hne rfl
  | cons m ms =>
    obtain ⟨t, ht, -⟩ := (Move.runAll_eq_ok_of_looks (hlooks m List.mem_cons_self)).1 h
    rw [(awaiting_of_settle ht).1] at hwait
    cases hwait

theorem not_ends_of_awaiting (hwait : r.awaiting = true) (hescaped : r.escaped = true) :
    ¬Ends d arguments r s := by
  intro h
  cases arguments with
  | nil =>
    obtain ⟨t, ht, hs⟩ := h
    cases ht
    rw [(awaiting_of_settle hs).1] at hwait
    cases hwait
  | cons a rest =>
    obtain ⟨t, ht, -⟩ := ends_cons.1 h
    obtain ⟨ms, hms, hrun⟩ := take_eq_ok.1 ht
    rw [hescaped] at hms
    cases hms with
    | late =>
      exact runAll_ne_ok_of_awaiting hwait (List.forall_mem_singleton.2 rfl)
        (List.cons_ne_nil _ _) hrun

theorem ends_value (hidle : r.pending = none) :
    Ends d rest { r with pending := some (.timeout v) } s ↔
      ∃ t, r.setTimeout v = .ok t ∧ Ends d rest t s := by
  have hsettle : { r with pending := some (.timeout v) }.settle = r.setTimeout v := by
    rw [settle, ← hidle]
  rw [ends_iff_settled rfl, hsettle]

/-- The option that waits for its value has it from the next argument. -/
theorem ends_wait (hidle : r.pending = none) (hopen : r.escaped = false) :
    Ends d arguments { r with pending := some .option } s ↔
      ∃ number n rest t, arguments = .ofString number :: rest ∧ SpellsNumber n number.toList ∧
        (Item.timeout n).Put r t ∧ Ends d rest t s := by
  have hwait : { r with pending := some .option }.awaiting = true := rfl
  constructor
  · intro h
    cases arguments with
    | nil =>
      obtain ⟨t, ht, hs⟩ := h
      cases ht
      cases hs
    | cons a rest =>
      obtain ⟨t, ht, hrest⟩ := ends_cons.1 h
      obtain ⟨ms, hms, hrun⟩ := take_eq_ok.1 ht
      have hlater : (∀ m ∈ ms, m.looks = true) → ms ≠ [] → Move.runAll ms _ ≠ .ok t :=
        runAll_ne_ok_of_awaiting hwait
      simp only [hopen] at hms
      cases hms with
      | dashes =>
        cases hrun
        exact absurd hrest (not_ends_of_awaiting rfl rfl)
      | flag | timeout =>
        exact absurd hrun (hlater (List.forall_mem_singleton.2 rfl) (List.cons_ne_nil _ _))
      | row _ hrow => exact absurd hrun (hlater hrow.looks hrow.ne_nil)
      | value ha =>
        cases hrun
        obtain ⟨t, ht, hends⟩ := (ends_value hidle).1 hrest
        obtain ⟨number, n, rfl, hn, hput⟩ := (setTimeout_eq_ok hidle).1 ht
        exact ⟨number, n, rest, t, rfl, hn, hput, hends⟩
  · rintro ⟨number, n, rest, t, rfl, hn, hput, hrest⟩
    have hset := (setTimeout_eq_ok hidle).2 ⟨number, n, rfl, hn, hput⟩
    have hplain := Argument.plain_iff.2 (.inr (hn.head?_ne (by decide) (by decide)))
    refine ends_cons.2 ⟨_, take_eq_ok.2 ⟨[.value (.ofString number)], ?_, rfl⟩,
      (ends_value hidle).2 ⟨t, hset, hrest⟩⟩
    simp only [hopen]
    exact .value hplain

/-! ## Items in front of other arguments -/

/-- Arguments that begin with an item, which is put in its place before the others are read. -/
def EndsByItem (arguments : List Argument) (r s : Reading) : Prop :=
  ∃ (item : Item) (texts : List String) (rest : List Argument) (t : Reading),
    item.Spelled texts ∧ arguments = texts.map .ofString ++ rest ∧ item.Put r t ∧
      Ends .settings rest t s

/-- The option and its value in the next argument. -/
theorem endsByItem_of_wait (hidle : r.pending = none) (hopen : r.escaped = false) {flag : String}
    (hflag : flag = "-t" ∨ flag = "--timeout") (hrun : (Move.flag .timeout).run r = .ok t)
    (h : Ends .settings arguments t s) : EndsByItem (.ofString flag :: arguments) r s := by
  rw [run_wait hidle] at hrun
  cases hrun
  obtain ⟨number, n, rest, t, rfl, hn, hput, hends⟩ := (ends_wait hidle hopen).1 h
  exact ⟨_, _, rest, t, .apart hflag hn, rfl, hput, hends⟩

/-- The option and its value in one argument. -/
theorem endsByItem_of_timeout (hidle : r.pending = none) {flag : String}
    (hflag : flag = "-t" ∨ flag = "-t=" ∨ flag = "--timeout=")
    (hrun : (Move.timeout v).run r = .ok t) (h : Ends .settings arguments t s) :
    EndsByItem ((.ofString flag ++ v) :: arguments) r s := by
  obtain ⟨number, n, rfl, hn, hput⟩ := (run_timeout_eq_ok hidle).1 hrun
  refine ⟨_, _, arguments, t, .together hflag hn, ?_, hput, h⟩
  rw [List.map_singleton, Argument.ofString_append]
  rfl

theorem eq_help {f : Flag} (hf : f ∈ Dialect.settings.flags) (htimeout : f ≠ .timeout) :
    f = .help := by
  rcases List.mem_cons.1 hf with rfl | hf
  · exact absurd rfl htimeout
  · exact List.mem_singleton.1 hf

theorem awaiting_of_idle (hidle : r.pending = none) : r.awaiting = false := by
  rw [awaiting, hidle]
  rfl

/-- Arguments that are accepted begin with an item or with the end of the options. -/
theorem ends_cases (hidle : r.pending = none) (hopen : r.escaped = false)
    (h : Ends .settings (a :: arguments) r s) :
    (a = .ofString "--" ∧ Ends .settings arguments { r with escaped := true } s) ∨
      EndsByItem (a :: arguments) r s := by
  obtain ⟨t, ht, hrest⟩ := ends_cons.1 h
  obtain ⟨ms, hms, hrun⟩ := take_eq_ok.1 ht
  rw [hopen, awaiting_of_idle hidle] at hms
  cases hms with
  | dashes =>
    cases hrun
    exact .inl ⟨rfl, hrest⟩
  | @flag _ g option f hf hoption =>
    rw [runAll_singleton] at hrun
    by_cases htimeout : f = .timeout
    · subst htimeout
      rw [Argument.splitValue_eq_none hoption]
      exact .inr (endsByItem_of_wait hidle hopen (.inr rfl) hrun hrest)
    · rw [eq_help hf htimeout] at hrun
      exact absurd hrun (run_help_ne_ok hidle)
  | @timeout _ g option value hd hoption =>
    rw [runAll_singleton] at hrun
    rw [Argument.splitValue_eq_some hoption]
    exact .inr (endsByItem_of_timeout hidle (.inr (.inr rfl)) hrun hrest)
  | row hg hrow =>
    cases hrow with
    | flag hf hvalue hlater =>
      obtain ⟨u, hu, -⟩ := Move.runAll_cons.1 hrun
      rw [eq_help hf hvalue] at hu
      exact absurd hu (run_help_ne_ok hidle)
    | wait =>
      rw [runAll_singleton] at hrun
      exact .inr (endsByItem_of_wait hidle hopen (.inl rfl) hrun hrest)
    | equals _ value =>
      rw [runAll_singleton] at hrun
      exact .inr (endsByItem_of_timeout hidle (.inr (.inl rfl)) hrun hrest)
    | timeout _ hg value =>
      rw [runAll_singleton] at hrun
      exact .inr (endsByItem_of_timeout hidle (.inl rfl) hrun hrest)
  | host ha =>
    rw [runAll_singleton] at hrun
    obtain ⟨text, t, rfl, hput, hends⟩ := (ends_host hidle).1 ⟨t, hrun, hrest⟩
    exact .inr ⟨_, _, arguments, t, .host (Argument.plain_iff.1 ha), rfl, hput, hends⟩

/-- An item that has its place free is read. -/
theorem ends_of_put {item : Item} {texts : List String} (hopen : r.escaped = false)
    (hitem : item.Spelled texts) (hput : item.Put r t) (h : Ends .settings arguments t s) :
    Ends .settings (texts.map .ofString ++ arguments) r s := by
  have hidle : r.pending = none := by cases hput <;> assumption
  have hd : .timeout ∈ Dialect.settings.flags := List.mem_cons_self
  have htake {a : Argument} {m : Move} {t : Reading} (hms : a.Means .settings false false [m])
      (hrun : m.run r = .ok t) : r.take .settings a = .ok t := by
    refine take_eq_ok.2 ⟨[m], ?_, (runAll_singleton m r).trans hrun⟩
    rwa [hopen, awaiting_of_idle hidle]
  cases hitem with
  | @host text hplain =>
    obtain ⟨t', ht', hends⟩ := (ends_host hidle).2 ⟨text, t, rfl, hput, h⟩
    exact ends_cons.2 ⟨t', htake (.host (Argument.plain_iff.2 hplain)) ht', hends⟩
  | @apart flag number n hflag hn =>
    have hmeans : (Argument.ofString flag).Means .settings false false [.flag .timeout] := by
      rcases hflag with rfl | rfl
      · exact .row (by decide) (.wait hd)
      · exact .flag hd rfl
    exact ends_cons.2 ⟨_, htake hmeans (run_wait hidle),
      (ends_wait hidle hopen).2 ⟨number, n, arguments, t, rfl, hn, hput, h⟩⟩
  | @together flag number n hflag hn =>
    have hmeans : (Argument.ofString (flag ++ number)).Means .settings false false
        [.timeout (.ofString number)] := by
      rw [Argument.ofString_append]
      rcases hflag with rfl | rfl | rfl
      · obtain ⟨c, rest, hcons, hc⟩ := hn.exists_cons
        have hnumber : Argument.ofString number = some c :: rest.map some := by
          rw [Argument.ofString, hcons, List.map_cons]
        have hequals : some c ≠ some '=' := by
          rcases hc with rfl | hc
          · decide
          · rintro ⟨⟩
            cases hc
        rw [hnumber]
        exact .row (by decide) (.timeout hd hequals _)
      · exact .row (by decide) (.equals hd _)
      · exact .timeout hd rfl
    exact ends_cons.2 ⟨t, htake hmeans ((run_timeout_eq_ok hidle).2 ⟨number, n, rfl, hn, hput⟩), h⟩

/-- After the end of the options there are only hosts, and at most one. -/
theorem ends_late (hidle : r.pending = none) (hescaped : r.escaped = true) :
    Ends d arguments r s ↔ ∃ hosts : List String, arguments = hosts.map .ofString ∧
      s.host.toList = r.host.toList ++ hosts ∧ s = { r with host := s.host } := by
  induction arguments generalizing r with
  | nil =>
    constructor
    · rintro ⟨t, ht, hs⟩
      cases ht
      rw [settle_of_idle hidle] at hs
      cases hs
      exact ⟨[], rfl, (List.append_nil _).symm, rfl⟩
    · rintro ⟨hosts, hnil, hhost, hs⟩
      obtain rfl : hosts = [] := List.map_eq_nil_iff.1 hnil.symm
      rw [hs, eq_of_toList hhost]
      exact ⟨r, rfl, settle_of_idle hidle⟩
  | cons a rest ih =>
    rw [ends_cons, take_of_escaped hescaped]
    refine (ends_host hidle).trans ?_
    constructor
    · rintro ⟨text, t, rfl, hput, h⟩
      cases hput with
      | host _ hfree =>
        obtain ⟨hosts, rfl, hhost, hs⟩ :=
          (ih (r := { r with host := some text }) hidle hescaped).1 h
        refine ⟨text :: hosts, rfl, ?_, hs⟩
        rw [hhost, hfree]
        rfl
    · rintro ⟨hosts, hmap, hhost, hs⟩
      obtain ⟨text, hosts, rfl, rfl, rfl⟩ := List.map_eq_cons_iff.1 hmap.symm
      have hfree := free_of_toList hhost
      refine ⟨text, _, rfl, .host hidle hfree,
        (ih (r := { r with host := some text }) hidle hescaped).2 ⟨hosts, rfl, ?_, hs⟩⟩
      rw [hhost, hfree]
      rfl

/-- Arguments that are accepted hold what is in its place after them and was not before. -/
theorem exists_holds (hidle : r.pending = none) (hopen : r.escaped = false)
    (h : Ends .settings arguments r s) :
    ∃ hosts timeouts texts, CommandLine.Holds hosts timeouts texts ∧
      arguments = texts.map .ofString ∧ s.host.toList = r.host.toList ++ hosts ∧
      s.timeout.toList = r.timeout.toList ++ timeouts := by
  -- an item may be more than one argument
  induction hlen : arguments.length using Nat.strongRecOn generalizing arguments r with
  | ind n ih =>
    subst hlen
    cases arguments with
    | nil =>
      obtain ⟨t, ht, hs⟩ := h
      cases ht
      rw [settle_of_idle hidle] at hs
      cases hs
      exact ⟨[], [], [], .nothing, rfl, (List.append_nil _).symm, (List.append_nil _).symm⟩
    | cons a rest =>
      rcases ends_cases hidle hopen h with
        ⟨rfl, hlate⟩ | ⟨item, part, rest', t, hitem, hsplit, hput, hrest⟩
      · obtain ⟨hosts, rfl, hhost, hs⟩ :=
          (ends_late (r := { r with escaped := true }) hidle rfl).1 hlate
        refine ⟨hosts, [], _, .late hosts, rfl, hhost, ?_⟩
        rw [hs, List.append_nil]
      · obtain ⟨hidle', hescaped, haddedHost, haddedTimeout⟩ := hput.adds
        have hshorter : rest'.length < (a :: rest).length := by
          rw [hsplit, List.length_append, List.length_map]
          have hpos : 0 < part.length := by cases hitem <;> exact Nat.succ_pos _
          omega
        obtain ⟨hosts, timeouts, texts, hholds, rfl, hhost, htimeout⟩ :=
          ih _ hshorter hidle' (hescaped.trans hopen) hrest rfl
        refine ⟨_, _, _, .item hitem hholds, ?_, ?_, ?_⟩
        · rw [hsplit, List.map_append]
        · rw [hhost, haddedHost, List.append_assoc]
        · rw [htimeout, haddedTimeout, List.append_assoc]

/-- Arguments are accepted if there is place for all that they hold. -/
theorem ends_of_holds {host : Option String} {timeout : Option UInt64} {hosts texts : List String}
    {timeouts : List UInt64} (h : CommandLine.Holds hosts timeouts texts)
    (hidle : r.pending = none) (hopen : r.escaped = false)
    (hhost : host.toList = r.host.toList ++ hosts)
    (htimeout : timeout.toList = r.timeout.toList ++ timeouts) :
    ∃ s, Ends .settings (texts.map .ofString) r s ∧ s.host = host ∧ s.timeout = timeout := by
  induction h generalizing r with
  | nothing =>
    exact ⟨r, ⟨r, rfl, settle_of_idle hidle⟩, (eq_of_toList hhost).symm,
      (eq_of_toList htimeout).symm⟩
  | late hosts =>
    have hlate : Ends .settings (hosts.map .ofString) { r with escaped := true }
        { r with escaped := true, host := host } :=
      (ends_late (r := { r with escaped := true }) hidle rfl).2 ⟨hosts, rfl, hhost, rfl⟩
    refine ⟨_, ends_cons.2 ⟨_, take_dashes ?_, hlate⟩, rfl, (eq_of_toList htimeout).symm⟩
    rw [hopen]
    exact Bool.false_ne_true
  | @item item part hosts texts timeouts hitem hholds ih =>
    obtain ⟨t, hput⟩ := Item.exists_put hidle hhost htimeout
    obtain ⟨hidle', hescaped, haddedHost, haddedTimeout⟩ := hput.adds
    rw [← List.append_assoc, ← haddedHost] at hhost
    rw [← List.append_assoc, ← haddedTimeout] at htimeout
    obtain ⟨s, hs, hfields⟩ := ih hidle' (hescaped.trans hopen) hhost htimeout
    rw [List.map_append]
    exact ⟨s, ends_of_put hopen hitem hput hs, hfields⟩

end Reading

/-! ## Command lines -/

namespace CommandLine

/-- How a command line, in bytes, is written that asks for a host and perhaps a timeout. -/
def Spelled (host : String) (timeout : Option UInt64) (arguments : List Bytes) : Prop :=
  ∃ texts, arguments = texts.map Utf8.encode ∧ Holds [host] timeout.toList texts

/-- Every host and every timeout can be asked for. -/
theorem exists_spelled (host : String) (timeout : Option UInt64) :
    ∃ arguments, Spelled host timeout arguments := by
  cases timeout with
  | none => exact ⟨_, ["--", host], rfl, .late [host]⟩
  | some n =>
    obtain ⟨cs, hcs⟩ := exists_spellsNumber n
    have hn : SpellsNumber n (String.ofList cs).toList := by rwa [String.toList_ofList]
    have hitem : (Item.timeout n).Spelled ["-t", String.ofList cs] := .apart (.inl rfl) hn
    exact ⟨_, ["-t", String.ofList cs, "--", host], rfl, .item hitem (.late [host])⟩

end CommandLine

theorem Argument.ofBytes_eq_ofString {bytes : Bytes} {text : String} :
    ofBytes bytes = ofString text ↔ bytes = Utf8.encode text :=
  Utf8.decode_eq_iff

theorem Argument.map_ofBytes {arguments : List Bytes} {texts : List String} :
    arguments.map ofBytes = texts.map ofString ↔ arguments = texts.map Utf8.encode := by
  induction arguments generalizing texts with
  | nil => cases texts <;> simp
  | cons bytes arguments ih =>
    cases texts with
    | nil => simp
    | cons text texts =>
      rw [List.map_cons, List.map_cons, List.map_cons, List.cons.injEq, List.cons.injEq, ih,
        ofBytes_eq_ofString]

namespace Invocation

theorem parse_settings_eq_ok {arguments : List Argument} {i : Invocation} :
    parse .settings arguments = .ok i ↔ ∃ texts host timeout, arguments = texts.map .ofString ∧
      CommandLine.Holds [host] timeout.toList texts ∧
      i = ⟨Settings.ofHost host timeout, false⟩ := by
  have hquiet : .verbose ∉ Dialect.settings.flags := by decide
  constructor
  · intro h
    have hverbose := verbose_of_parse hquiet h
    obtain ⟨r, s, host, hr, hs, hhost, rfl⟩ := parse_eq_ok.1 h
    obtain ⟨hosts, timeouts, texts, hholds, rfl, hhosts, htimeouts⟩ :=
      Reading.exists_holds rfl rfl ⟨r, hr, hs⟩
    have hhosts : [host] = hosts := by rw [hhost] at hhosts; exact hhosts
    have htimeouts : s.timeout.toList = timeouts := htimeouts
    subst hhosts htimeouts
    have hverbose : s.verbose = false := hverbose
    exact ⟨texts, host, s.timeout, rfl, hholds, by rw [hverbose]⟩
  · rintro ⟨texts, host, timeout, rfl, hholds, rfl⟩
    have hfree : (some host).toList = ({} : Reading).host.toList ++ [host] := rfl
    obtain ⟨s, ⟨r, hr, hs⟩, hhost, htimeout⟩ := Reading.ends_of_holds hholds rfl rfl hfree rfl
    have hverbose : s.verbose = false :=
      (Reading.marks_of_settle hs).2.trans (Reading.verbose_of_notMem hquiet hr rfl)
    exact parse_eq_ok.2 ⟨r, s, host, hr, hs, hhost, by rw [htimeout, hverbose]⟩

theorem parse_bytes_eq_ok {arguments : List Bytes} {i : Invocation} :
    parse .settings (arguments.map .ofBytes) = .ok i ↔
      ∃ host timeout, CommandLine.Spelled host timeout arguments ∧
        i = ⟨Settings.ofHost host timeout, false⟩ := by
  rw [parse_settings_eq_ok]
  constructor
  · rintro ⟨texts, host, timeout, hmap, hholds, hi⟩
    exact ⟨host, timeout, ⟨texts, Argument.map_ofBytes.1 hmap, hholds⟩, hi⟩
  · rintro ⟨host, timeout, ⟨texts, hmap, hholds⟩, hi⟩
    exact ⟨texts, host, timeout, Argument.map_ofBytes.2 hmap, hholds, hi⟩

/-- A command line that only has settings is accepted exactly if it is written as one that asks for
a host and perhaps a timeout, in UTF-8. These are what is asked for, and all else about the settings
has its usual value. However a host and a timeout are written, the same is asked for. -/
theorem parse_iff_spelled (arguments : List Bytes) :
    let parsed := parse .settings (arguments.map .ofBytes)
    (∀ i, parsed = .ok i ↔ ∃ host timeout, CommandLine.Spelled host timeout arguments ∧
      i = ⟨{ host, port := 502, unit := 1, address := 103, timeout := timeout.getD 3000 }, false⟩) ∧
    ∀ host timeout arguments', CommandLine.Spelled host timeout arguments →
      CommandLine.Spelled host timeout arguments' →
      parse .settings (arguments'.map .ofBytes) = parsed := by
  intro parsed
  refine ⟨fun i => parse_bytes_eq_ok, fun host timeout arguments' h h' => ?_⟩
  have hparsed : parsed = .ok ⟨Settings.ofHost host timeout, false⟩ :=
    parse_bytes_eq_ok.2 ⟨host, timeout, h, rfl⟩
  have hparsed' := parse_bytes_eq_ok.2 ⟨host, timeout, h', rfl⟩
  exact hparsed'.trans hparsed.symm

/-- The end of the options as a host after the end of the options, and a plus sign in the value of
an option. -/
theorem parse_iff_spelled_dashes :
    let arguments := ["-t=+5", "--", "--"].map Utf8.encode
    let arguments' := ["--timeout", "005", "--", "--"].map Utf8.encode
    CommandLine.Spelled "--" (some 5) arguments ∧ CommandLine.Spelled "--" (some 5) arguments' ∧
      parse .settings (arguments.map .ofBytes) = .ok ⟨Settings.ofHost "--" (some 5), false⟩ ∧
      parse .settings (arguments'.map .ofBytes) = parse .settings (arguments.map .ofBytes) := by
  intro arguments arguments'
  have hplus : SpellsNumber 5 "+5".toList :=
    ⟨['5'], .inr rfl, List.cons_ne_nil _ _, List.all_eq_true.1 rfl, rfl⟩
  have hzeros : SpellsNumber 5 "005".toList :=
    ⟨['0', '0', '5'], .inl rfl, List.cons_ne_nil _ _, List.all_eq_true.1 rfl, rfl⟩
  have h : CommandLine.Spelled "--" (some 5) arguments :=
    ⟨_, rfl, .item (.together (.inr (.inl rfl)) hplus) (.late ["--"])⟩
  have h' : CommandLine.Spelled "--" (some 5) arguments' :=
    ⟨_, rfl, .item (.apart (.inr rfl) hzeros) (.late ["--"])⟩
  obtain ⟨hparse, hsame⟩ := parse_iff_spelled arguments
  exact ⟨h, h', (hparse _).2 ⟨"--", some 5, h, rfl⟩, hsame _ _ _ h h'⟩

end Invocation

end CoilProbe
