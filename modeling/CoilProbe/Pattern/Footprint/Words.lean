import CoilProbe.Pattern.Footprint

/-!
# States for a choice of words

A choice between words is laid out as a tree: words that begin with the same byte share the state
for it. A word that ends in the middle of others is preferred to the words after it, but not to
those before it, so the words before and after it do not share what comes next.
-/

namespace CoilProbe.Pattern

/-- The bytes of a word. -/
abbrev Word := List Nat

/-- The bytes that some words begin with. -/
def firstBytes (words : List Word) : List Nat := (words.filterMap List.head?).eraseDups

/-- What comes after a byte in the words that begin with it. -/
def wordsAfter (byte : Nat) (words : List Word) : List Word :=
  words.filterMap fun word =>
    match word with
    | [] => none
    | b :: rest => if b = byte then some rest else none

/-- The words that stand together, without words between them that have ended. -/
def wordsTogether (words : List Word) : List (List Word) :=
  (words.splitBy fun v w => v.isEmpty == w.isEmpty).filter fun run => !run.all (·.isEmpty)

/-- How many places there are where a word has ended. Those before all other words are one. -/
def wordEnds (words : List Word) : Nat :=
  (if words.head? = some [] then 1 else 0) + (words.dropWhile (·.isEmpty)).count []

namespace Footprint

/-- Lays out the states for some words, of which the longest has fewer bytes than `depth`: the
states for what comes after their first bytes, a state for each group of words that stand together,
and a fork to these states and to the end. Where all words have ended no state is needed. -/
def words : (depth : Nat) → List Word → Footprint → Footprint
  | 0, _, f => f
  | depth + 1, all, f =>
    if all.all (·.isEmpty) then f
    else
      let groups := wordsTogether all
      let laid := groups.foldl (fun f group =>
        let bytes := firstBytes group
        let after := bytes.foldl (fun f byte => words depth (wordsAfter byte group) f) f
        if bytes.length = 1 then after.plain 1 else after.table bytes.length) f
      laid.fork (groups.length + wordEnds all)

/-- Lays out a choice of words. The state where all of them end comes first. -/
def choiceOfWords (d : Direction) (all : List Word) (f : Footprint) : Footprint :=
  let directed :=
    match d with
    | .forward => all
    | .backward => all.map List.reverse
  words ((all.foldl (fun n word => max n word.length) 0) + 1) directed (f.plain 1)

end Footprint

end CoilProbe.Pattern
