import CoilProbe.Pattern.Parser.Class
import CoilProbe.Text.Letter

/-!
# Reading patterns

A pattern is read from left to right, with the groups that are open kept from the inside to the
outside. Flags hold to the end of the group that they stand in, whatever branches it has. The first
flaw on the way is the one that is reported; how deep the pattern is counts only when all of it has
been read.
-/

namespace CoilProbe.Pattern

/-- What has been read of a group, or of the pattern around all groups. -/
structure Level where
  /-- Where its first branch begins. -/
  start : Nat
  /-- The finished branches, the last one first. -/
  branches : List Tree := []
  /-- Where the branch in hand begins. -/
  branchStart : Nat := start
  /-- The parts of the branch in hand, the last one first. -/
  parts : List Tree := []

namespace Level

/-- The level with one more part in the branch in hand. -/
def push (part : Tree) (l : Level) : Level := { l with parts := part :: l.parts }

/-- The branch in hand, which ends at a place. -/
def branch (stop : Nat) (l : Level) : Tree :=
  match l.parts.reverse with
  | [] => .nothing ⟨l.branchStart, stop⟩
  | [part] => part
  | parts => .sequence ⟨l.branchStart, stop⟩ parts

/-- The level with a new branch in hand, behind the mark at a place. -/
def nextBranch (mark : Nat) (l : Level) : Level :=
  { l with branches := l.branch mark :: l.branches, branchStart := mark + 1, parts := [] }

/-- All branches, which end at a place. -/
def tree (stop : Nat) (l : Level) : Tree :=
  match l.branches with
  | [] => l.branch stop
  | branches => .choice ⟨l.start, stop⟩ (branches.reverse ++ [l.branch stop])

end Level

/-- The name of a group and where it is. -/
structure GroupName where
  /-- The name. -/
  name : List Char
  /-- Where it is. -/
  span : Span

/-- A group that is open. -/
structure OpenGroup where
  /-- Where it was opened. -/
  start : Nat
  /-- Whether it is captured. -/
  captured : Bool
  /-- The flags that hold in it. -/
  change : ModeChange
  /-- What has been read around it. -/
  outer : Level
  /-- Whether the pattern may be spaced around it. -/
  spaced : Bool

/-- A pattern in reading. -/
structure ParserState where
  /-- What has been read of the innermost group. -/
  level : Level := { start := 0 }
  /-- The groups that are open, from the inside to the outside. -/
  groups : List OpenGroup := []
  /-- The names of the groups so far. -/
  names : List GroupName := []
  /-- Whether the pattern may be spaced. -/
  spaced : Bool := false

/-! ## Groups -/

/-- A flag, or the negation of those behind it, and where it is. -/
structure FlagItem where
  /-- The flag; missing for a negation. -/
  mode : Option Mode
  /-- Where it is. -/
  span : Span

/-- The flag that a character is, or the negation. -/
def flagItemOf? (c : Char) : Option (Option Mode) :=
  if c = '-' then some none else (Mode.ofChar? c).map some

/-- The change that some flags make. -/
def changeOf (items : List FlagItem) : ModeChange where
  on := (items.takeWhile (·.mode.isSome)).filterMap (·.mode)
  off := (items.dropWhile (·.mode.isSome)).filterMap (·.mode)

/-- The flags at a place, up to the mark that ends them; `seen` are those before, the last one
first. -/
def readFlags (seen : List FlagItem) (place : Nat) : List Char → Checked (ModeChange × Cursor)
  | [] => refuse .flagsUnclosed place place
  | c :: rest =>
    if c = ':' ∨ c = ')' then
      match seen with
      | ⟨none, span⟩ :: _ => .error { flaw := .negationDangling, span := span }
      | _ => .ok (changeOf seen.reverse, ⟨place, c :: rest⟩)
    else match flagItemOf? c with
      | none => refuse .flagUnknown place (place + 1)
      | some mode =>
        match seen.find? (·.mode = mode) with
        | some earlier =>
          .error
            { flaw := if mode.isNone then .negationRepeated else .flagRepeated
              span := ⟨place, place + 1⟩
              earlier := some earlier.span }
        | none => readFlags (⟨mode, ⟨place, place + 1⟩⟩ :: seen) (place + 1) rest

/-- Whether the names of groups can have a character, and begin with it if it is the first. -/
def inGroupName (first : Bool) (c : Char) : Bool :=
  c == '_' || isLetter c || (!first && (isNumeral c || c == '.' || c == '[' || c == ']'))

/-- The characters of a name up to the mark that ends it, and the place behind that. -/
def readNameChars (first : Bool) (place : Nat) : List Char → Checked (List Char × Cursor)
  | [] => refuse .nameUnclosed place place
  | c :: rest =>
    if c = '>' then .ok ([], ⟨place + 1, rest⟩)
    else if inGroupName first c then do
      let (name, behind) ← readNameChars false (place + 1) rest
      return (c :: name, behind)
    else refuse .nameCharacter place (place + 1)

/-- The name of a group, which is not one of those before. -/
def readGroupName (names : List GroupName) (c : Cursor) : Checked (GroupName × Cursor) := do
  let (name, behind) ← readNameChars true c.place c.rest
  let span : Span := ⟨c.place, c.place + name.length⟩
  if name = [] then refuse .nameEmpty c.place c.place
  else match names.find? (·.name = name) with
    | some earlier => .error { flaw := .nameRepeated, span := span, earlier := some earlier.span }
    | none => return (⟨name, span⟩, behind)

/-- What the beginning of a group says. -/
inductive GroupHead where
  /-- There is no group, but flags for what follows. -/
  | flags (change : ModeChange)
  /-- A group that is captured, with a name or without. -/
  | captured (name : Option GroupName)
  /-- A group that is not captured, with flags. -/
  | plain (change : ModeChange)

/-- What comes behind the question mark of a group's beginning; the group begins at `start`. -/
def readFlagGroup (start : Nat) (c : Cursor) : Checked (GroupHead × Cursor) :=
  let inner := c.step
  if inner.rest = [] then refuse .groupUnclosed start (start + 1)
  else do
    let (change, behind) ← readFlags [] inner.place inner.rest
    if behind.rest.head? = some ':' then return (.plain change, behind.step)
    else if change = {} then refuse .nothingToRepeat c.place c.place
    else return (.flags change, behind.step)

/-- The beginning of a group, at its parenthesis. -/
def readGroupHead (spaced : Bool) (names : List GroupName) (c : Cursor) :
    Checked (GroupHead × Cursor) :=
  let inner := c.pass spaced
  let around := [['?', '='], ['?', '!'], ['?', '<', '='], ['?', '<', '!']].findSome? inner.passText?
  match around, inner.passText? ['?', 'P', '<'] <|> inner.passText? ['?', '<'] with
  | some behind, _ => refuse .lookAround c.place behind.place
  | none, some behind => do
    let (name, behind) ← readGroupName names behind
    return (.captured (some name), behind)
  | none, none =>
    if inner.rest.head? = some '?' then readFlagGroup c.place inner
    else .ok (.captured none, inner)

namespace ParserState

/-- The pattern with one more part in the innermost group. -/
def push (part : Tree) (s : ParserState) : ParserState := { s with level := s.level.push part }

/-- The pattern with one more open group, whose inside begins at a place. -/
def openGroup (start inside : Nat) (captured : Bool) (change : ModeChange)
    (name : Option GroupName) (s : ParserState) : ParserState :=
  { level := { start := inside }
    groups := ⟨start, captured, change, s.level, s.spaced⟩ :: s.groups
    names := name.toList ++ s.names
    spaced := change.apply .spaced s.spaced }

/-- The pattern behind the beginning of a group that begins and ends at some places. -/
def takeHead (start stop : Nat) (s : ParserState) : GroupHead → ParserState
  | .flags change =>
    { s.push (.flags ⟨start, stop⟩ change) with spaced := change.apply .spaced s.spaced }
  | .captured name => s.openGroup start stop true {} name
  | .plain change => s.openGroup start stop false change none

/-- The pattern behind the end of a group, at its parenthesis. -/
def closeGroup (place : Nat) (s : ParserState) : Checked ParserState :=
  match s.groups with
  | [] => refuse .groupUnopened place (place + 1)
  | g :: groups =>
    let group := Tree.group ⟨g.start, place + 1⟩ g.captured g.change (s.level.tree place)
    .ok { s with level := g.outer.push group, groups := groups, spaced := g.spaced }

end ParserState

/-! ## Repetitions -/

/-- The part that a repetition at a place repeats, and the level without it. -/
def Level.takeRepeated (place : Nat) (l : Level) : Checked (Tree × Level) :=
  match l.parts with
  | [] => refuse .nothingToRepeat place place
  | part :: parts =>
    if part.repeatable then .ok (part, { l with parts := parts })
    else refuse .nothingToRepeat place place

/-- Whether a question mark comes next, and the place behind it or else here. -/
def Cursor.passLazy (c : Cursor) : Bool × Cursor :=
  match c.passText? ['?'] with
  | some behind => (true, behind)
  | none => (false, c)

/-- A number among blanks, and the place behind it. -/
def readCount (spaced : Bool) (c : Cursor) : Checked Nat × Cursor :=
  let start := c.trimmed
  let (digits, behind) := start.readWhile spaced Char.isDigit
  let value := ofDigits 10 (digits.filterMap decimalDigit?)
  (if digits = [] then refuse .countMissing start.place behind.place
    else if 4294967295 < value then refuse .numberTooLarge start.place behind.place
    else .ok value,
   behind.trimmed)

/-- How often something is repeated. -/
structure Count where
  /-- At least so often. -/
  least : Nat
  /-- At most so often, unless there is no limit. -/
  most : Option Nat
  /-- Whether few repetitions are preferred. -/
  lazy : Bool := false

/-- Whether a count can be met. -/
def Count.possible (n : Count) : Bool :=
  match n.most with
  | none => true
  | some most => n.least ≤ most

/-- The numbers of a count, at its opening brace, and the place behind them. -/
def readCountRange (spaced : Bool) (c : Cursor) : Checked (Count × Cursor) :=
  let inner := c.pass spaced
  if inner.rest = [] then refuse .countUnclosed c.place inner.place
  else
    let (least, behind) := readCount spaced inner
    match behind.rest with
    | [] => refuse .countUnclosed c.place behind.place
    | ',' :: _ =>
      let second := behind.pass spaced
      match second.rest with
      | [] => refuse .countUnclosed c.place second.place
      | '\x7d' :: _ => do return ({ least := ← least, most := none }, second)
      | _ => do
        let least ← least
        let (most, behind) := readCount spaced second
        return ({ least := least, most := some (← most) }, behind)
    | _ => do
      let least ← least
      return ({ least := least, most := some least }, behind)

/-- A count in braces, at the opening one. -/
def readRepetition (spaced : Bool) (c : Cursor) : Checked (Count × Cursor) := do
  let (count, behind) ← readCountRange spaced c
  if behind.rest.head? = some '\x7d' then
    let (few, behind) := (behind.pass spaced).passLazy
    if count.possible then return ({ count with lazy := few }, behind)
    else refuse .countReversed c.place behind.place
  else refuse .countUnclosed c.place behind.place

namespace ParserState

/-- The pattern with its last part repeated; the repetition ends at a place. -/
def repeatLast (part : Tree) (level : Level) (count : Count) (stop : Nat) (s : ParserState) :
    ParserState :=
  let repetition :=
    Tree.repetition ⟨part.span.start, stop⟩ count.least count.most count.lazy part
  { s with level := level.push repetition }

/-- Reads a repetition by one mark. -/
def takeMark (least : Nat) (most : Option Nat) (s : ParserState) (c : Cursor) :
    Checked (ParserState × Cursor) := do
  let (part, level) ← s.level.takeRepeated c.place
  let (few, behind) := c.step.passLazy
  return (s.repeatLast part level ⟨least, most, few⟩ behind.place, behind)

/-- Reads a repetition by a count. -/
def takeCount (s : ParserState) (c : Cursor) : Checked (ParserState × Cursor) := do
  let (part, level) ← s.level.takeRepeated c.place
  let (count, behind) ← readRepetition s.spaced c
  return (s.repeatLast part level count behind.place, behind)

/-! ## Patterns -/

/-- Reads the next part of a pattern; `room` is more than the number of characters left. -/
def step (room : Nat) (s : ParserState) (c : Cursor) : Checked (ParserState × Cursor) := do
  let atom (a : Atom) (behind : Cursor) : Checked (ParserState × Cursor) :=
    .ok (s.push (.atom a), behind)
  let here : Span := ⟨c.place, c.place + 1⟩
  match c.rest with
  | [] => return (s, c)
  | x :: _ =>
    match x with
    | '(' =>
      let (head, behind) ← readGroupHead s.spaced s.names c
      return (s.takeHead c.place behind.place head, behind)
    | ')' => return (← s.closeGroup c.place, c.step)
    | '|' => return ({ s with level := s.level.nextBranch c.place }, c.step)
    | '[' =>
      let (tree, behind) ← readClass room s.spaced c
      return (s.push tree, behind)
    | '?' => s.takeMark 0 (some 1) c
    | '*' => s.takeMark 0 none c
    | '+' => s.takeMark 1 none c
    | '\x7b' => s.takeCount c
    | '\\' =>
      let (a, behind) ← readEscape s.spaced c
      atom a behind
    | '.' => atom (.dot here) c.step
    | '^' => atom (.assertion here .lineStart) c.step
    | '$' => atom (.assertion here .lineEnd) c.step
    | _ => atom (.literal (.at c.place x)) c.step

/-- The pattern that has been read up to its end, which is at a place. -/
def finish (stop : Nat) (s : ParserState) : Checked Tree :=
  match s.groups with
  | [] => .ok (s.level.tree stop)
  | g :: _ => refuse .groupUnclosed g.start (g.start + 1)

/-- Reads a pattern to its end; `room` is more than the number of characters left. Every step passes
a character, so there is always room for the next one. -/
def readAll (room : Nat) (s : ParserState) (c : Cursor) : Checked Tree :=
  match room with
  | 0 => s.finish c.place
  | left + 1 =>
    let next := c.passBlanks s.spaced
    if next.rest = [] then s.finish next.place
    else match s.step room next with
      | .error fault => .error fault
      | .ok (s, behind) => readAll left s behind

end ParserState

/-- The pattern that a text is. -/
def Tree.parse (pattern : List Char) : Checked Tree := do
  let tree ← ParserState.readAll (pattern.length + 1) {} (.start pattern)
  tree.checkDepth depthLimit
  return tree

end CoilProbe.Pattern
