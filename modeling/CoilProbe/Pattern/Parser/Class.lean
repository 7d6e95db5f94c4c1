import CoilProbe.Pattern.Parser.Escape

/-!
# Reading classes

A class stands in brackets: characters, ranges, escapes and classes in brackets of their own, one
after the other, and operations between such rows. All operations bind alike, from left to right.
-/

namespace CoilProbe.Pattern

/-- A class of which the opening bracket has been read. -/
structure OpenClass where
  /-- The bracket, and what belongs to it: a negation, and what stands for itself only there. -/
  opening : Span
  /-- Whether the characters outside of the class are meant. -/
  negated : Bool
  /-- An operation that waits for its right side, and its left side. -/
  left : Option (SetOperation × ClassTree) := none
  /-- Where the row in hand begins. -/
  rowStart : Nat
  /-- The row in hand, the last part first. -/
  row : List ClassTree := []

namespace OpenClass

/-- The class with one more part in its row. -/
def push (part : ClassTree) (o : OpenClass) : OpenClass := { o with row := part :: o.row }

/-- The row in hand. -/
def rowTree (o : OpenClass) : ClassTree :=
  match o.row.reverse with
  | [] => .nothing ⟨o.rowStart, o.rowStart⟩
  | [part] => part
  | first :: parts =>
    .union ⟨first.span.start, (parts.getLastD first).span.stop⟩ (first :: parts)

/-- What has been read: the row in hand as the right side of the operation that waits for it. -/
def tree (o : OpenClass) : ClassTree :=
  match o.left with
  | none => o.rowTree
  | some (op, left) => .operation op left o.rowTree

/-- The class behind an operation whose right side begins at a place. -/
def operate (op : SetOperation) (place : Nat) (o : OpenClass) : OpenClass :=
  { o with left := some (op, o.tree), rowStart := place, row := [] }

end OpenClass

/-- A character that stands for itself, at a place. -/
def Literal.at (place : Nat) (char : Char) : Literal := ⟨char, false, ⟨place, place + 1⟩⟩

/-- The hyphens at the beginning of a class, which stand for themselves. -/
def readHyphens (spaced : Bool) (start : Nat) (o : OpenClass) (c : Cursor) :
    Checked (OpenClass × Cursor) :=
  match _ : c.rest with
  | '-' :: _ =>
    if (c.pass spaced).rest = [] then refuse .classUnclosed start start
    else readHyphens spaced start (o.push (.literal (.at c.place '-'))) (c.pass spaced)
  | _ => .ok (o, c)
termination_by c.rest.length
decreasing_by exact c.length_pass_lt spaced (by simp [*])

/-- The beginning of a class, at its bracket. A bracket that closes stands for itself there. -/
def readOpening (spaced : Bool) (c : Cursor) : Checked (OpenClass × Cursor) := do
  let inner := c.pass spaced
  let negated := inner.rest.head? = some '^'
  let inner := if negated then inner.pass spaced else inner
  if inner.rest = [] then refuse .classUnclosed c.place inner.place
  else
    let opened : OpenClass :=
      { opening := ⟨c.place, 0⟩, negated := negated, rowStart := inner.place }
    let (opened, inner) ← readHyphens spaced c.place opened inner
    if opened.row.isEmpty ∧ inner.rest.head? = some ']' then
      let behind := inner.pass spaced
      if behind.rest = [] then refuse .classUnclosed c.place behind.place
      else
        let opened := opened.push (.literal (.at inner.place ']'))
        return ({ opened with opening := ⟨c.place, behind.place⟩ }, behind)
    else return ({ opened with opening := ⟨c.place, inner.place⟩ }, inner)

/-- A class with a name, if one comes next. -/
def readNamed? (c : Cursor) : Option (ClassTree × Cursor) :=
  match c.passText? ['[', ':'] with
  | none => none
  | some inner =>
    let negated := inner.rest.head? = some '^'
    let inner := if negated then inner.step else inner
    let (name, behind) := inner.readWhile false (· ≠ ':')
    match behind.passText? [':', ']'], AsciiClass.ofName? (String.ofList name) with
    | some behind, some kind => some (.named ⟨c.place, behind.place⟩ negated kind, behind)
    | _, _ => none

/-- A character or an escape in a class. -/
def readClassAtom (spaced : Bool) (c : Cursor) : Checked (Atom × Cursor) :=
  match c.rest with
  | '\\' :: _ => readEscape spaced c
  | x :: _ => .ok (.literal (.at c.place x), c.step)
  | [] => refuse .classUnclosed c.place c.place

/-- What an atom stands for in a class. -/
def Atom.inClass : Atom → Checked ClassTree
  | .literal l => .ok (.literal l)
  | .escapedClass span negated kind => .ok (.escapedClass span negated kind)
  | .property span => .ok (.property span)
  | .dot span | .assertion span _ => .error { flaw := .classEscape, span := span }

/-- The character that an atom is, for one end of a range. -/
def Atom.boundary : Atom → Checked Literal
  | .literal l => .ok l
  | .dot span | .assertion span _ | .escapedClass span _ _ | .property span =>
    .error { flaw := .rangeBoundary, span := span }

/-- A character, an escape or a range in a class with the given opening. -/
def readRange (spaced : Bool) (opening : Span) (c : Cursor) : Checked (ClassTree × Cursor) := do
  let (first, c) ← readClassAtom spaced c
  let c := c.passBlanks spaced
  let unclosed : Fault := { flaw := .classUnclosed, span := opening }
  match c.rest with
  | [] => .error unclosed
  | '-' :: _ =>
    if c.ahead? spaced = some ']' ∨ c.ahead? spaced = some '-' then return (← first.inClass, c)
    else
      let c := c.pass spaced
      if c.rest = [] then .error unclosed
      else
        let (last, c) ← readClassAtom spaced c
        let first ← first.boundary
        let last ← last.boundary
        if first.char ≤ last.char then return (.range first last, c)
        else refuse .rangeReversed first.span.start last.span.stop
  | _ => return (← first.inClass, c)

/-- A class in reading: the innermost one that is open, and those around it. -/
structure ClassState where
  /-- The innermost one. -/
  inner : OpenClass
  /-- Those around it, from the inside to the outside. -/
  outer : List OpenClass

namespace ClassState

/-- The state with one more part in the innermost class. -/
def push (part : ClassTree) (s : ClassState) : ClassState := { s with inner := s.inner.push part }

/-- The state behind an operation. -/
def operate (op : SetOperation) (place : Nat) (s : ClassState) : ClassState :=
  { s with inner := s.inner.operate op place }

end ClassState

/-- The operation that comes next. -/
def operationOf? : List Char → Option SetOperation
  | '&' :: '&' :: _ => some .intersection
  | '-' :: '-' :: _ => some .difference
  | '~' :: '~' :: _ => some .symmetricDifference
  | _ => none

/-- Reads the next part of a class: then either the class is closed, or reading goes on. -/
def ClassState.step (spaced : Bool) (s : ClassState) (c : Cursor) :
    Checked ((Tree ⊕ ClassState) × Cursor) := do
  match c.rest with
  | [] => .error { flaw := .classUnclosed, span := s.inner.opening }
  | '[' :: _ =>
    match readNamed? c with
    | some (part, c) => return (.inr (s.push part), c)
    | none =>
      let (opened, c) ← readOpening spaced c
      return (.inr ⟨opened, s.inner :: s.outer⟩, c)
  | ']' :: _ =>
    let span : Span := ⟨s.inner.opening.start, c.place + 1⟩
    match s.outer with
    | [] => return (.inl (.brackets span s.inner.negated s.inner.tree), c.step)
    | next :: outer =>
      let part := ClassTree.bracketed span s.inner.negated s.inner.tree
      return (.inr ⟨next.push part, outer⟩, c.step)
  | rest =>
    match operationOf? rest with
    | some op => return (.inr (s.operate op (c.place + 2)), c.step.step)
    | none =>
      let (part, c) ← readRange spaced s.inner.opening c
      return (.inr (s.push part), c)

/-- Reads on to the end of a class; `room` is more than the number of characters left. Every step
passes a character, so there is always room for the next one. -/
def readClassFrom (room : Nat) (spaced : Bool) (s : ClassState) (c : Cursor) :
    Checked (Tree × Cursor) :=
  match room with
  | 0 => .error { flaw := .classUnclosed, span := s.inner.opening }
  | left + 1 =>
    match s.step spaced (c.passBlanks spaced) with
    | .error fault => .error fault
    | .ok (.inl tree, behind) => .ok (tree, behind)
    | .ok (.inr s, behind) => readClassFrom left spaced s behind

/-- A class, at its bracket; `room` is more than the number of characters left. -/
def readClass (room : Nat) (spaced : Bool) (c : Cursor) : Checked (Tree × Cursor) := do
  let (opened, c) ← readOpening spaced c
  readClassFrom room spaced ⟨opened, []⟩ c

end CoilProbe.Pattern
