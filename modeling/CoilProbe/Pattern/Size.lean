import CoilProbe.Pattern.Footprint.Chars
import CoilProbe.Pattern.Footprint.Words
import CoilProbe.Pattern.Matcher

/-!
# The size of a matcher

Counts can make a short pattern stand for a long one. How large a matcher is shows in the automaton
that would run it: it has states for each byte of a character, and for each copy of what is
repeated. One automaton goes forward and keeps account of captured groups, one goes backward.
-/

namespace CoilProbe.Pattern

namespace Matcher

/-- The word that is the only one to match, if there is one. -/
def word? : Matcher → Option Word
  | .text chars => some (chars.flatMap fun c => utf8Bytes c.toNat)
  | _ => none

/-- Whether matches may be empty, as far as can be seen from the least number of their bytes. -/
def mayBeEmpty (m : Matcher) : Bool := m.minSize.getD 0 == 0

end Matcher

/-- Where a matcher stands in the choice that it is laid out for. -/
inductive Turn where
  /-- It does not stand in a choice, or it is the first branch. -/
  | alone
  /-- It is the second branch, or has it and those after it for its own. -/
  | second
  /-- It is a later branch, or has it and those after it for its own. -/
  | later
deriving DecidableEq

/-- Lays out what a choice takes beside its branches, once a branch is laid out. The fork that the
choice begins with and the state that it ends with come after the second branch. -/
def Turn.branch (t : Turn) (f : Footprint) : Footprint :=
  match t with
  | .alone => f
  | .second => (f.fork 2).plain 1
  | .later => { f with lists := f.lists + 4 }

namespace Footprint

/-- Lays out a repetition of something. Each fork that begins another copy can also end the
repetition. -/
def repeated (least : Nat) (most : Option Nat) (mayBeEmpty : Bool) (lay : Footprint → Footprint)
    (f : Footprint) : Footprint :=
  match least, most with
  | 0, none => if mayBeEmpty then (((lay f).fork 2).fork 2).plain 1 else lay (f.fork 2)
  | least, none => (copies lay least f).fork 2
  | 0, some 1 => (lay (f.fork 2)).plain 1
  | least, some most =>
    if least = most then copies lay least f
    else
      let fixed := if least = 0 then f.plain 1 else copies lay least f
      copies (fun f => lay (f.fork 2)) (most - least) (fixed.plain 1)

end Footprint

namespace Matcher

/-- Lays out a matcher. -/
def lay (d : Direction) : Matcher → Turn → Footprint → Footprint
  | .empty, t, f | .look _, t, f => t.branch (f.plain 1)
  | .text chars, t, f => t.branch (f.plain (chars.foldl (fun n c => n + utf8Size c.toNat) 0))
  | .oneOf bytes set, t, f => t.branch (f.chars d bytes set)
  | .captured _ inner, t, f =>
    t.branch <|
      match d with
      | .forward => (inner.lay d .alone (f.plain 1)).plain 1
      | .backward => inner.lay d .alone f
  | .repeated least most _ inner, t, f =>
    t.branch (f.repeated least most inner.mayBeEmpty (inner.lay d .alone))
  | .both first second, t, f =>
    t.branch <|
      match d with
      | .forward => second.lay d .alone (first.lay d .alone f)
      | .backward => first.lay d .alone (second.lay d .alone f)
  | .either first second, .alone, f =>
    match (first :: second.branches).mapM word? with
    | some words => f.choiceOfWords d words
    | none => second.lay d .second (first.lay d .alone f)
  | .either first second, t, f => second.lay d .later (t.branch (first.lay d .alone f))

/-- Whether all matches are where an automaton begins. -/
def anchored (d : Direction) (m : Matcher) : Bool :=
  match d with
  | .forward => m.atStart
  | .backward => m.atEnd

/-- What the automaton of a matcher takes. It begins with states that pass over any bytes, unless
nothing is to be passed over. Going forward, it captures the whole match. -/
def footprint (d : Direction) (m : Matcher) : Footprint :=
  let start := if m.anchored d then Footprint.nothing.plain 1
    else ((Footprint.nothing.fork 2).plain 1).table 1
  match d with
  | .forward => (m.lay d .alone (start.plain 1)).plain 2
  | .backward => (m.lay d .alone start).plain 1

/-- Whether a matcher asks for words of other letters than those of ASCII. -/
def asksForWords : Matcher → Bool
  | .look (.word ascii _) => !ascii
  | .empty | .text _ | .oneOf _ _ | .look _ => false
  | .captured _ inner | .repeated _ _ _ inner => inner.asksForWords
  | .both first second | .either first second => first.asksForWords || second.asksForWords

end Matcher

end CoilProbe.Pattern
