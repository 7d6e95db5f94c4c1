import CoilProbe.Pattern.Cursor
import CoilProbe.Pattern.Tree

/-!
# Reading escapes

An escape is a backslash and what it gives a meaning to: a punctuation mark that stands for itself,
a letter that stands for another character, an assertion or a class, or the number of a character.
-/

namespace CoilProbe.Pattern

/-- The character with a number. -/
def charOfNumber? (n : Nat) : Option Char := if n.isValidChar then some (Char.ofNat n) else none

/-- Hexadecimal digits, as many as are asked for. -/
def readHexDigits (spaced : Bool) : Nat → Cursor → Checked (List Nat × Cursor)
  | 0, c => .ok ([], c)
  | count + 1, c =>
    match c.rest with
    | [] => refuse .escapeUnfinished c.place c.place
    | x :: _ =>
      match hexDigit? x with
      | none => refuse .hexDigit c.place (c.place + 1)
      | some digit => do
        let (digits, c) ← readHexDigits spaced count (c.pass spaced)
        return (digit :: digits, c)

/-- A character's number in braces, at the opening one. The escape begins at `start`. -/
def readHexBraces (spaced : Bool) (start : Nat) (c : Cursor) : Checked (Literal × Cursor) :=
  let (digits, behind) := (c.pass spaced).readWhile spaced fun x => (hexDigit? x).isSome
  match behind.rest with
  | [] => refuse .escapeUnfinished c.place behind.place
  | '\x7d' :: _ =>
    let after := behind.pass spaced
    if digits = [] then refuse .hexEmpty c.place after.place
    else match charOfNumber? (ofDigits 16 (digits.filterMap hexDigit?)) with
      | some char => .ok (⟨char, false, ⟨start, after.place⟩⟩, after)
      | none => refuse .hexNoCharacter (c.place + 1) behind.place
  | _ => refuse .hexDigit behind.place (behind.place + 1)

/-- A character's number, at the letter before it, with `width` digits or in braces. -/
def readHex (spaced : Bool) (start width : Nat) (c : Cursor) : Checked (Literal × Cursor) :=
  let c := c.pass spaced
  match c.rest with
  | [] => refuse .escapeUnfinished c.place c.place
  | '\x7b' :: _ => readHexBraces spaced start c
  | _ => do
    let (digits, behind) ← readHexDigits spaced width c
    match charOfNumber? (ofDigits 16 digits) with
    | some char => return (⟨char, width = 2, ⟨start, behind.place⟩⟩, behind)
    | none => refuse .hexNoCharacter c.place behind.place

/-- A property of characters, at the letter before it. It is one letter or stands in braces. -/
def readProperty (spaced : Bool) (start : Nat) (c : Cursor) : Checked (Atom × Cursor) :=
  let c := c.pass spaced
  match c.rest with
  | [] => refuse .escapeUnfinished c.place c.place
  | '\x7b' :: _ =>
    let (_, behind) := (c.pass spaced).readWhile spaced (· ≠ '\x7d')
    if behind.rest = [] then refuse .escapeUnfinished behind.place behind.place
    else .ok (.property ⟨start, behind.place + 1⟩, behind.step)
  | '\\' :: _ => refuse .propertyMissing c.place (c.place + 1)
  | _ =>
    let behind := c.pass spaced
    .ok (.property ⟨start, behind.place⟩, behind)

/-- The assertion of a named word boundary. -/
def boundaryOfName? (name : List Char) : Option Assertion :=
  match String.ofList name with
  | "start" => some .wordStart
  | "end" => some .wordEnd
  | "start-half" => some .wordStartHalf
  | "end-half" => some .wordEndHalf
  | _ => none

/-- Whether the names of word boundaries can have a character. -/
def inBoundaryName (c : Char) : Bool := c.isAlpha || c == '-'

/-- A word boundary, behind its letter. It has a name if braces with a letter follow; other braces
count repetitions. -/
def readBoundary (spaced : Bool) (start : Nat) (c : Cursor) : Checked (Atom × Cursor) :=
  let plain : Atom := .assertion ⟨start, c.place⟩ .boundary
  match c.rest with
  | '\x7b' :: _ =>
    let inner := c.pass spaced
    match inner.rest with
    | [] => refuse .boundaryUnfinished start inner.place
    | x :: _ =>
      if inBoundaryName x then
        let (name, behind) := inner.readWhile spaced inBoundaryName
        match behind.rest with
        | '\x7d' :: _ =>
          match boundaryOfName? name with
          | some a => .ok (.assertion ⟨start, behind.place + 1⟩ a, behind.step)
          | none => refuse .boundaryUnknown inner.place behind.place
        | _ => refuse .boundaryUnclosed c.place behind.place
      else .ok (plain, c)
  | _ => .ok (plain, c)

/-- Whether a backslash makes a character stand for itself. -/
def isMark (c : Char) : Bool := c.toNat < 0x80 && !c.isAlphanum && c != '<' && c != '>'

/-- The character that an escaped letter stands for. -/
def controlOf? : Char → Option Char
  | 'a' => some '\x07'
  | 'f' => some '\x0c'
  | 't' => some '\t'
  | 'n' => some '\n'
  | 'r' => some '\r'
  | 'v' => some '\x0b'
  | _ => none

/-- The assertion that an escaped character makes. -/
def assertionOf? : Char → Option Assertion
  | 'A' => some .textStart
  | 'z' => some .textEnd
  | 'B' => some .noBoundary
  | '<' => some .wordStart
  | '>' => some .wordEnd
  | _ => none

/-- The class that an escaped letter stands for, and whether the characters outside of it are
meant. -/
def escapedClassOf? : Char → Option (Bool × AsciiClass)
  | 'd' => some (false, .digit)
  | 's' => some (false, .space)
  | 'w' => some (false, .word)
  | 'D' => some (true, .digit)
  | 'S' => some (true, .space)
  | 'W' => some (true, .word)
  | _ => none

/-- What a backslash and one character mean. -/
def escapeOf? (span : Span) (c : Char) : Option Atom :=
  if isMark c then some (.literal ⟨c, false, span⟩)
  else match controlOf? c, assertionOf? c, escapedClassOf? c with
    | some control, _, _ => some (.literal ⟨control, false, span⟩)
    | none, some a, _ => some (.assertion span a)
    | none, none, some (negated, kind) => some (.escapedClass span negated kind)
    | none, none, none => none

/-- An escape, at its backslash. -/
def readEscape (spaced : Bool) (c : Cursor) : Checked (Atom × Cursor) :=
  let letter := c.step
  match letter.rest with
  | [] => refuse .escapeUnfinished c.place letter.place
  | x :: _ =>
    let literal (width : Nat) : Checked (Atom × Cursor) := do
      let (l, behind) ← readHex spaced c.place width letter
      return (.literal l, behind)
    match x with
    | 'x' => literal 2
    | 'u' => literal 4
    | 'U' => literal 8
    | 'p' | 'P' => readProperty spaced c.place letter
    | 'b' => readBoundary spaced c.place letter.step
    | _ =>
      if x.isDigit then refuse .backReference c.place (letter.place + 1)
      else match escapeOf? ⟨c.place, letter.place + 1⟩ x with
        | some a => .ok (a, letter.step)
        | none => refuse .escapeUnknown c.place (letter.place + 1)

end CoilProbe.Pattern
