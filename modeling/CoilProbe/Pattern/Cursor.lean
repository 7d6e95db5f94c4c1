import CoilProbe.Pattern.Fault
import CoilProbe.Text.Blank

/-!
# Reading a pattern from left to right

A `Cursor` is a place in a pattern. Where a pattern may be spaced, blanks between its parts are
passed over, and comments from `#` to the end of a line.
-/

namespace CoilProbe.Pattern

/-- A place in a pattern. -/
structure Cursor where
  /-- How many characters stand before it. -/
  place : Nat
  /-- The characters after it. -/
  rest : List Char
deriving DecidableEq

/-- What is found in a pattern, unless the pattern is refused. -/
abbrev Checked := Except Fault

/-- Refuses a pattern. -/
def refuse {α : Type} (flaw : Flaw) (start stop : Nat) : Checked α :=
  .error { flaw := flaw, span := ⟨start, stop⟩ }

namespace Cursor

/-- The beginning of a pattern. -/
def start (pattern : List Char) : Cursor := ⟨0, pattern⟩

/-- Behind the next character. -/
def step (c : Cursor) : Cursor :=
  match c.rest with
  | [] => c
  | _ :: rest => ⟨c.place + 1, rest⟩

/-- Behind blanks and comments that begin at a place; `comment` is whether it is in a comment. -/
def behindBlanks (comment : Bool) (place : Nat) : List Char → Cursor
  | [] => ⟨place, []⟩
  | c :: rest =>
    if comment then behindBlanks (c ≠ '\n') (place + 1) rest
    else if isBlank c then behindBlanks false (place + 1) rest
    else if c = '#' then behindBlanks true (place + 1) rest
    else ⟨place, c :: rest⟩

/-- Behind the blanks, if the pattern may be spaced. -/
def passBlanks (spaced : Bool) (c : Cursor) : Cursor :=
  if spaced then behindBlanks false c.place c.rest else c

/-- Behind the next character and the blanks after it. -/
def pass (spaced : Bool) (c : Cursor) : Cursor := c.step.passBlanks spaced

/-- The character after the next one, not counting blanks. Of a comment only its first character is
not counted. -/
def ahead? (spaced : Bool) (c : Cursor) : Option Char :=
  let rest := c.step.rest
  if spaced then
    match rest.dropWhile isBlank with
    | '#' :: comment => (comment.dropWhile isBlank).head? <|> rest.head?
    | [] => rest.head?
    | next :: _ => some next
  else rest.head?

/-- Behind a text, if it comes next. -/
def passText? (text : List Char) (c : Cursor) : Option Cursor :=
  if text.isPrefixOf c.rest then some ⟨c.place + text.length, c.rest.drop text.length⟩ else none

/-- Behind the blanks, in any pattern. -/
def trimmed (c : Cursor) : Cursor :=
  ⟨c.place + (c.rest.takeWhile isBlank).length, c.rest.dropWhile isBlank⟩

theorem length_behindBlanks_le (comment : Bool) (place : Nat) (cs : List Char) :
    (behindBlanks comment place cs).rest.length ≤ cs.length := by
  induction cs generalizing comment place with
  | nil => exact Nat.le_refl _
  | cons c rest ih =>
    unfold behindBlanks
    split
    · exact Nat.le_succ_of_le (ih _ _)
    · split
      · exact Nat.le_succ_of_le (ih _ _)
      · split
        · exact Nat.le_succ_of_le (ih _ _)
        · exact Nat.le_refl _

theorem length_passBlanks_le (spaced : Bool) (c : Cursor) :
    (c.passBlanks spaced).rest.length ≤ c.rest.length := by
  unfold passBlanks
  split
  · exact length_behindBlanks_le _ _ _
  · exact Nat.le_refl _

/-- Passing a character leaves less of the pattern. -/
theorem length_pass_lt (spaced : Bool) (c : Cursor) (some : c.rest ≠ []) :
    (c.pass spaced).rest.length < c.rest.length := by
  refine Nat.lt_of_le_of_lt (length_passBlanks_le spaced c.step) ?_
  unfold step
  cases h : c.rest with
  | nil => exact absurd h some
  | cons x rest => exact Nat.lt_succ_self _

/-- The characters that come next and satisfy a test, and the place behind them. -/
def readWhile (spaced : Bool) (test : Char → Bool) (c : Cursor) : List Char × Cursor :=
  match _ : c.rest with
  | [] => ([], c)
  | x :: _ =>
    if test x then
      let (xs, c) := readWhile spaced test (c.pass spaced)
      (x :: xs, c)
    else ([], c)
termination_by c.rest.length
decreasing_by exact c.length_pass_lt spaced (by simp [*])

end Cursor

end CoilProbe.Pattern
