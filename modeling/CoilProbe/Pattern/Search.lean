import CoilProbe.Pattern.Matcher

/-!
# Searching a text

A matcher is run on all places of a text at once. For every place it is found out how long the
matches are that begin there. As many lengths may be possible, they are a set, written as a number:
the bit of weight `2 ^ n` says whether a match can be `n` characters long. Nothing is tried twice,
so a search takes no longer than the square of the text's length for each part of the matcher.
-/

namespace CoilProbe.Pattern

/-- A place of a text. -/
structure Place where
  /-- The character before it. -/
  before : Option Char
  /-- What comes behind it. -/
  rest : List Char

/-- The places of a text that comes after a character. -/
def placesBehind (before : Option Char) : List Char → List Place
  | [] => [⟨before, []⟩]
  | c :: rest => ⟨before, c :: rest⟩ :: placesBehind (some c) rest

/-- Whether a character is there and of an ASCII word. -/
def ofWord (c : Option Char) : Bool :=
  match c with
  | none => false
  | some c => AsciiClass.word.chars.has c.toNat

/-- Whether an assertion about words holds, given whether the characters on the two sides are of
words. -/
def WordEdge.holds (before after : Bool) : WordEdge → Bool
  | .either => before != after
  | .neither => before == after
  | .start => !before && after
  | .stop => before && !after
  | .startHalf => !before
  | .stopHalf => !after

/-- Whether an assertion holds at a place. The end of a line is one character: between a carriage
return and the line feed after it no line ends or begins. -/
def Look.holds (p : Place) (l : Look) : Bool :=
  let before := p.before
  let after := p.rest.head?
  match l with
  | .textStart => before.isNone
  | .textEnd => after.isNone
  | .lineStart crlf =>
    before.isNone || before == some '\n' || (crlf && before == some '\r' && after != some '\n')
  | .lineEnd crlf =>
    after.isNone || (crlf && after == some '\r')
      || (after == some '\n' && !(crlf && before == some '\r'))
  | .word _ edge => edge.holds (ofWord before) (ofWord after)

/-- For each place of a text the lengths that are possible there. -/
abbrev Lengths := List Nat

namespace Lengths

/-- The lengths of one stretch with another behind it, given the lengths of the first one and those
of the second one at the places where it can begin. -/
def gather (first : Nat) : Lengths → Nat
  | [] => 0
  | second :: later =>
    if first = 0 then 0
    else (if first % 2 = 1 then second else 0) ||| (2 * gather (first / 2) later)

/-- The lengths of one stretch with another behind it. -/
def andThen : Lengths → Lengths → Lengths
  | first :: more, second :: later => gather first (second :: later) :: andThen more later
  | _, _ => []

/-- The lengths of any number of stretches in a row. Behind a stretch that is not empty the places
are fewer. -/
def star : Lengths → Lengths
  | [] => []
  | once :: later =>
    let behind := star later
    (1 ||| (2 * gather (once / 2) behind)) :: behind

/-- The lengths of a given number of stretches in a row. -/
def power (once : Lengths) (count : Nat) : Lengths :=
  if _ : count = 0 then once.map fun _ => 1
  else
    let half := power once (count / 2)
    let even := half.andThen half
    if count % 2 = 1 then once.andThen even else even
termination_by count
decreasing_by omega

/-- The lengths of two choices. -/
def union (first second : Lengths) : Lengths := first.zipWith (· ||| ·) second

end Lengths

namespace Matcher

/-- How long the matches are that begin at the given places. -/
def lengths (places : List Place) : Matcher → Lengths
  | .empty => places.map fun _ => 1
  | .text chars => places.map fun p => if chars.isPrefixOf p.rest then 2 ^ chars.length else 0
  | .oneOf _ set => places.map fun p => if p.rest.head?.any (set.has ·.toNat) then 2 else 0
  | .look l => places.map fun p => if l.holds p then 1 else 0
  | .captured _ inner => inner.lengths places
  | .repeated least most _ inner =>
    let once := inner.lengths places
    (once.power least).andThen <|
      match most with
      | none => once.star
      | some most => Lengths.power (once.map (1 ||| ·)) (most - least)
  | .both first second => (first.lengths places).andThen (second.lengths places)
  | .either first second => (first.lengths places).union (second.lengths places)

/-- Whether a stretch of a text matches. -/
def found (m : Matcher) (text : List Char) : Bool :=
  (m.lengths (placesBehind none text)).any (· ≠ 0)

end Matcher

end CoilProbe.Pattern
