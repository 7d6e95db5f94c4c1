import CoilProbe.Bytes

/-!
# Sets of characters

A set of characters is a list of ranges of code points in ascending order, with gaps between them.
The surrogates are no characters: a range may pass over them, but none begins or ends there.
-/

namespace CoilProbe.Pattern

/-- Code points in a row. -/
structure CodeRange where
  /-- The first one. -/
  first : Nat
  /-- The last one. -/
  last : Nat
deriving DecidableEq

/-- The code point of the character after another. -/
def codeAfter (n : Nat) : Nat := if n = 0xd7ff then 0xe000 else n + 1

/-- The code point of the character before another. -/
def codeBefore (n : Nat) : Nat := if n = 0xe000 then 0xd7ff else n - 1

namespace CodeRange

/-- Whether a range holds a code point. -/
def holds (r : CodeRange) (n : Nat) : Bool := r.first ≤ n && n ≤ r.last

/-- The range between two code points, whichever comes first. -/
def between (m n : Nat) : CodeRange := ⟨min m n, max m n⟩

/-- What two ranges have in common, if they have something in common. -/
def meet? (r s : CodeRange) : Option CodeRange :=
  let both : CodeRange := ⟨max r.first s.first, min r.last s.last⟩
  if both.first ≤ both.last then some both else none

/-- What is left of a range without another. -/
def minus (r s : CodeRange) : List CodeRange :=
  (if r.first < s.first then [⟨r.first, min r.last (codeBefore s.first)⟩] else [])
    ++ (if s.last < r.last then [⟨max r.first (codeAfter s.last), r.last⟩] else [])

end CodeRange

/-- A set of characters: the ranges of their code points. -/
abbrev CharSet := List CodeRange

namespace CharSet

/-- Whether a set has a code point. -/
def has (s : CharSet) (n : Nat) : Bool := s.any (·.holds n)

/-- The characters from one to another. -/
def range (first last : Char) : CharSet := [⟨first.toNat, last.toNat⟩]

/-- The set of one character. -/
def only (c : Char) : CharSet := range c c

/-- The greatest code point. -/
def greatest : Nat := 0x10ffff

/-- All characters. -/
def all : CharSet := [⟨0, greatest⟩]

/-- A set with the characters of one more range. Ranges that touch become one. -/
def insert (r : CodeRange) : CharSet → CharSet
  | [] => [r]
  | s :: rest =>
    if r.last + 1 < s.first then r :: s :: rest
    else if s.last + 1 < r.first then s :: insert r rest
    else insert ⟨min r.first s.first, max r.last s.last⟩ rest

/-- The characters of ranges in any order. -/
def ofRanges (ranges : List CodeRange) : CharSet :=
  (ranges.mergeSort (·.first ≤ ·.first)).foldr insert []

/-- The characters of two sets. -/
def union (s t : CharSet) : CharSet := ofRanges (s ++ t)

/-- The characters that two sets have in common. -/
def inter (s t : CharSet) : CharSet := s.flatMap fun r => t.filterMap r.meet?

/-- The characters of a set that are not in another. -/
def diff (s t : CharSet) : CharSet := t.foldl (fun left r => left.flatMap (·.minus r)) s

/-- The characters that are in one of two sets and not in the other. -/
def symmDiff (s t : CharSet) : CharSet := (s.union t).diff (s.inter t)

/-- The gaps between ranges, the first of which comes behind the code point `last`. The neighbours
of the surrogates have no gap between them and stand for one themselves. -/
def gapsBehind (last : Nat) : CharSet → CharSet
  | [] => if last < greatest then [⟨codeAfter last, greatest⟩] else []
  | r :: rest => .between (codeAfter last) (codeBefore r.first) :: gapsBehind r.last rest

/-- The characters that are not in a set. -/
def complement : CharSet → CharSet
  | [] => all
  | r :: rest => (if 0 < r.first then [⟨0, codeBefore r.first⟩] else []) ++ gapsBehind r.last rest

/-- The set with every range moved up. -/
def up (distance : Nat) (s : CharSet) : CharSet :=
  s.map fun r => ⟨r.first + distance, r.last + distance⟩

/-- The set with every range moved down. -/
def down (distance : Nat) (s : CharSet) : CharSet :=
  s.map fun r => ⟨r.first - distance, r.last - distance⟩

/-- A set and the ASCII letters that differ from its own only in their case. -/
def caseless (s : CharSet) : CharSet :=
  ofRanges (s ++ up 32 (s.inter (range 'A' 'Z')) ++ down 32 (s.inter (range 'a' 'z')))

/-- The only character of a set, if there is just one. -/
def single? : CharSet → Option Char
  | [⟨first, last⟩] => if first = last then some (Char.ofNat first) else none
  | _ => none

end CharSet

/-- The classes of ASCII characters that have a name. -/
inductive AsciiClass where
  | alnum | alpha | ascii | blank | cntrl | digit | graph | lower | print | punct | space | upper
  | word | xdigit
deriving DecidableEq

namespace AsciiClass

/-- The class of a name. -/
def ofName? (name : String) : Option AsciiClass :=
  match name with
  | "alnum" => some .alnum
  | "alpha" => some .alpha
  | "ascii" => some .ascii
  | "blank" => some .blank
  | "cntrl" => some .cntrl
  | "digit" => some .digit
  | "graph" => some .graph
  | "lower" => some .lower
  | "print" => some .print
  | "punct" => some .punct
  | "space" => some .space
  | "upper" => some .upper
  | "word" => some .word
  | "xdigit" => some .xdigit
  | _ => none

/-- The characters of a class. -/
def chars : AsciiClass → CharSet
  | .alnum => .range '0' '9' ++ .range 'A' 'Z' ++ .range 'a' 'z'
  | .alpha => .range 'A' 'Z' ++ .range 'a' 'z'
  | .ascii => .range '\x00' '\x7f'
  | .blank => .only '\t' ++ .only ' '
  | .cntrl => .range '\x00' '\x1f' ++ .only '\x7f'
  | .digit => .range '0' '9'
  | .graph => .range '!' '~'
  | .lower => .range 'a' 'z'
  | .print => .range ' ' '~'
  | .punct => .range '!' '/' ++ .range ':' '@' ++ .range '[' '\x60' ++ .range '\x7b' '~'
  | .space => .range '\t' '\r' ++ .only ' '
  | .upper => .range 'A' 'Z'
  | .word => .range '0' '9' ++ .range 'A' 'Z' ++ .only '_' ++ .range 'a' 'z'
  | .xdigit => .range '0' '9' ++ .range 'A' 'F' ++ .range 'a' 'f'

end AsciiClass

end CoilProbe.Pattern
