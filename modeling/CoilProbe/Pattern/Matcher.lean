import CoilProbe.Pattern.CharSet

/-!
# Matchers

A `Matcher` says which stretches of a text match. Matchers are built by functions that keep them
simple: texts in a row become one text, a row inside of a row and a choice inside of a choice are
taken apart, a choice of characters becomes a set, what all branches of a choice begin with comes
before the choice, and what matches only empty stretches is not repeated.
-/

namespace CoilProbe.Pattern

/-- Assertions about words. -/
inductive WordEdge where
  /-- A word begins or ends. -/
  | either
  /-- No word begins or ends. -/
  | neither
  /-- A word begins. -/
  | start
  /-- A word ends. -/
  | stop
  /-- What is before is not of a word. -/
  | startHalf
  /-- What comes after is not of a word. -/
  | stopHalf
deriving DecidableEq

/-- What is asserted of a place between characters. -/
inductive Look where
  /-- The text begins. -/
  | textStart
  /-- The text ends. -/
  | textEnd
  /-- A line begins, and lines may end with a carriage return or not. -/
  | lineStart (crlf : Bool)
  /-- A line ends, and lines may end with a carriage return or not. -/
  | lineEnd (crlf : Bool)
  /-- What holds of words, which are of ASCII letters or of the letters of all languages. -/
  | word (ascii : Bool) (edge : WordEdge)
deriving DecidableEq

/-- Which stretches of a text match. -/
inductive Matcher where
  /-- Empty ones. -/
  | empty
  /-- One text. -/
  | text (chars : List Char)
  /-- Those of one character of a set, which may be one of bytes. -/
  | oneOf (bytes : Bool) (set : CharSet)
  /-- Empty ones at some places. -/
  | look (look : Look)
  /-- Those of a captured group, which has a number of its own. -/
  | captured (number : Nat) (inner : Matcher)
  /-- Several ones in a row, more or fewer of them preferred. -/
  | repeated (least : Nat) (most : Option Nat) (lazy : Bool) (inner : Matcher)
  /-- Those of one matcher with those of another behind them. -/
  | both (first second : Matcher)
  /-- Those of one matcher and those of another. -/
  | either (first second : Matcher)
deriving DecidableEq

/-- How many bytes a code point takes in UTF-8. -/
def utf8Size (n : Nat) : Nat :=
  if n < 0x80 then 1 else if n < 0x800 then 2 else if n < 0x10000 then 3 else 4

namespace Matcher

/-! ## How long matches are -/

/-- The least number of bytes of a match; missing if nothing matches. -/
def minSize : Matcher → Option Nat
  | .empty | .look _ => some 0
  | .text chars => some (chars.foldl (fun n c => n + utf8Size c.toNat) 0)
  | .oneOf _ set => set.head?.map fun r => utf8Size r.first
  | .captured _ inner => inner.minSize
  | .repeated least _ _ inner => inner.minSize.map (· * least)
  | .both first second => do return (← first.minSize) + (← second.minSize)
  | .either first second => do return min (← first.minSize) (← second.minSize)

/-- The greatest number of bytes of a match; missing if there is none, or nothing matches. -/
def maxSize : Matcher → Option Nat
  | .empty | .look _ => some 0
  | .text chars => some (chars.foldl (fun n c => n + utf8Size c.toNat) 0)
  | .oneOf _ set => set.getLast?.map fun r => utf8Size r.last
  | .captured _ inner => inner.maxSize
  | .repeated _ most _ inner => do return (← most) * (← inner.maxSize)
  | .both first second => do return (← first.maxSize) + (← second.maxSize)
  | .either first second => do return max (← first.maxSize) (← second.maxSize)

/-- Whether matches are empty, whatever is matched. -/
def onlyEmpty (m : Matcher) : Bool := m.maxSize == some 0

/-- Whether every match begins where the text begins. -/
def atStart : Matcher → Bool
  | .look .textStart => true
  | .empty | .text _ | .oneOf _ _ | .look _ => false
  | .captured _ inner => inner.atStart
  | .repeated least _ _ inner => 0 < least && inner.atStart
  | .both first second => first.atStart || (first.onlyEmpty && second.atStart)
  | .either first second => first.atStart && second.atStart

/-- Whether every match ends where the text ends. -/
def atEnd : Matcher → Bool
  | .look .textEnd => true
  | .empty | .text _ | .oneOf _ _ | .look _ => false
  | .captured _ inner => inner.atEnd
  | .repeated least _ _ inner => 0 < least && inner.atEnd
  | .both first second => second.atEnd || (second.onlyEmpty && first.atEnd)
  | .either first second => first.atEnd && second.atEnd

/-! ## Building matchers -/

/-- The matcher of nothing at all. -/
def never : Matcher := .oneOf true []

/-- The matcher of one character of a set. -/
def ofSet (bytes : Bool) (set : CharSet) : Matcher :=
  if set = [] then never
  else match set.single? with
    | some c => .text [c]
    | none => .oneOf bytes set

/-- A matcher repeated. -/
def times (least : Nat) (most : Option Nat) (lazy : Bool) (inner : Matcher) : Matcher :=
  let least := if inner.onlyEmpty then min least 1 else least
  let most := if inner.onlyEmpty then some (min (most.getD 1) 1) else most
  if least = 0 ∧ most = some 0 then .empty
  else if least = 1 ∧ most = some 1 then inner
  else .repeated least most lazy inner

/-- The matchers that a row consists of. -/
def parts : Matcher → List Matcher
  | .empty => []
  | .both first second => first :: second.parts
  | m => [m]

/-- A row with one more matcher before it. -/
def addPart (m : Matcher) (row : List Matcher) : List Matcher :=
  match m, row with
  | .text chars, .text more :: rest => .text (chars ++ more) :: rest
  | m, row => m :: row

/-- The matcher of a row. -/
def ofParts : List Matcher → Matcher
  | [] => .empty
  | [m] => m
  | m :: rest => .both m (ofParts rest)

/-- Matchers in a row. -/
def sequence (row : List Matcher) : Matcher := ofParts ((row.flatMap parts).foldr addPart [])

/-- The matchers that a choice is between. -/
def branches : Matcher → List Matcher
  | .either first second => first :: second.branches
  | m => [m]

/-- The matcher of a choice. -/
def ofBranches : List Matcher → Matcher
  | [] => never
  | [m] => m
  | m :: rest => .either m (ofBranches rest)

/-- The set of the character that is the only one to match, if there is one. -/
def charSet? : Matcher → Option CharSet
  | .text [c] => some (.only c)
  | _ => none

/-- The set of the characters that match, if it is one. -/
def set? : Matcher → Option CharSet
  | .oneOf _ set => some set
  | _ => none

/-- How many of the first matchers of two rows are the same. -/
def sharedCount : List Matcher → List Matcher → Nat
  | m :: rest, n :: more => if m = n then sharedCount rest more + 1 else 0
  | _, _ => 0

/-- How many matchers all branches begin with, if all of them are rows. -/
def sharedParts : List Matcher → Nat
  | [] => 0
  | m :: rest =>
    let row := m.parts
    if (m :: rest).all (1 < ·.parts.length) then
      rest.foldl (fun n other => min n (sharedCount row other.parts)) row.length
    else 0

/-- The number of matchers that a matcher is made of. -/
def nodes : Matcher → Nat
  | .empty | .text _ | .oneOf _ _ | .look _ => 1
  | .captured _ inner | .repeated _ _ _ inner => inner.nodes + 1
  | .both first second | .either first second => first.nodes + second.nodes + 1

/-- Matchers to choose from; `room` is more than all of them are made of. -/
def choiceWithin : (room : Nat) → List Matcher → Matcher
  | 0, ms => ofBranches (ms.flatMap branches)
  | room + 1, ms =>
    let all := ms.flatMap branches
    if all.length = 1 then ofBranches all
    else match all.mapM charSet?, all.mapM set? with
      | some sets, _ | none, some sets => ofSet false (.ofRanges sets.flatten)
      | none, none =>
        let count := sharedParts all
        if count = 0 then ofBranches all
        else
          let rests := all.map fun m => sequence (m.parts.drop count)
          sequence ((all.headD .empty).parts.take count ++ [choiceWithin room rests])

/-- Matchers to choose from. -/
def choice (ms : List Matcher) : Matcher :=
  choiceWithin (ms.foldl (fun n m => n + m.nodes) 1) ms

end Matcher

end CoilProbe.Pattern
