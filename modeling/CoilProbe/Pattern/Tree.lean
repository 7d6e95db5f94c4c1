import CoilProbe.Pattern.CharSet
import CoilProbe.Pattern.Fault

/-!
# Patterns as they are written

The tree of a pattern: its groups, alternatives, repetitions and classes, each with its place in the
text. What they match is in `CoilProbe.Pattern.Meaning`.
-/

namespace CoilProbe.Pattern

/-- What a flag of a pattern changes. -/
inductive Mode where
  /-- Letters match in either case. -/
  | caseless
  /-- Lines have beginnings and ends. -/
  | multiline
  /-- The dot matches the end of a line. -/
  | dotAll
  /-- Repetitions prefer to match little. -/
  | lazy
  /-- Characters are meant, not bytes. -/
  | unicode
  /-- Lines may end with a carriage return. -/
  | crlf
  /-- Blanks and comments stand between the parts of the pattern. -/
  | spaced
deriving DecidableEq

/-- The mode that a letter stands for. -/
def Mode.ofChar? : Char → Option Mode
  | 'i' => some .caseless
  | 'm' => some .multiline
  | 's' => some .dotAll
  | 'U' => some .lazy
  | 'u' => some .unicode
  | 'R' => some .crlf
  | 'x' => some .spaced
  | _ => none

/-- Flags: the modes that are switched on, and those that are switched off. -/
structure ModeChange where
  /-- Those switched on. -/
  on : List Mode := []
  /-- Those switched off. -/
  off : List Mode := []
deriving DecidableEq

/-- What a change makes of a mode that was in a given state. -/
def ModeChange.apply (change : ModeChange) (mode : Mode) (state : Bool) : Bool :=
  if mode ∈ change.on then true else if mode ∈ change.off then false else state

/-- A character that stands for itself. -/
structure Literal where
  /-- The character. -/
  char : Char
  /-- Whether it is written as two hexadecimal digits, as a byte can be. -/
  asByte : Bool
  /-- Where it is. -/
  span : Span
deriving DecidableEq

/-- Places between characters at which something is asserted. -/
inductive Assertion where
  /-- A line begins. -/
  | lineStart
  /-- A line ends. -/
  | lineEnd
  /-- The text begins. -/
  | textStart
  /-- The text ends. -/
  | textEnd
  /-- A word begins or ends. -/
  | boundary
  /-- No word begins or ends. -/
  | noBoundary
  /-- A word begins. -/
  | wordStart
  /-- A word ends. -/
  | wordEnd
  /-- What is before is not of a word. -/
  | wordStartHalf
  /-- What comes after is not of a word. -/
  | wordEndHalf
deriving DecidableEq

/-- A part of a pattern that matches one character or none. -/
inductive Atom where
  /-- A character. -/
  | literal (l : Literal)
  /-- Any character. -/
  | dot (span : Span)
  /-- An assertion. -/
  | assertion (span : Span) (a : Assertion)
  /-- A class with an escape of its own, or the characters outside of it. -/
  | escapedClass (span : Span) (negated : Bool) (c : AsciiClass)
  /-- The characters with a property. -/
  | property (span : Span)
deriving DecidableEq

/-- Where an atom is. -/
def Atom.span : Atom → Span
  | .literal l => l.span
  | .dot span | .assertion span _ | .escapedClass span _ _ | .property span => span

/-- Operations on two sets of characters. -/
inductive SetOperation where
  /-- What they have in common. -/
  | intersection
  /-- What only the first one has. -/
  | difference
  /-- What only one of them has. -/
  | symmetricDifference
deriving DecidableEq

/-- What stands in brackets. -/
inductive ClassTree where
  /-- Nothing. -/
  | nothing (span : Span)
  /-- A character. -/
  | literal (l : Literal)
  /-- The characters from one to another. -/
  | range (first last : Literal)
  /-- A class with a name, or the characters outside of it. -/
  | named (span : Span) (negated : Bool) (c : AsciiClass)
  /-- A class with an escape of its own, or the characters outside of it. -/
  | escapedClass (span : Span) (negated : Bool) (c : AsciiClass)
  /-- The characters with a property. -/
  | property (span : Span)
  /-- Brackets, perhaps for the characters outside of them. -/
  | bracketed (span : Span) (negated : Bool) (inner : ClassTree)
  /-- Several of these. -/
  | union (span : Span) (items : List ClassTree)
  /-- An operation on two of these. -/
  | operation (op : SetOperation) (left right : ClassTree)

/-- Where a part of a class is. -/
def ClassTree.span : ClassTree → Span
  | .nothing span => span
  | .literal l => l.span
  | .range first last => ⟨first.span.start, last.span.stop⟩
  | .named span _ _ | .escapedClass span _ _ | .property span | .bracketed span _ _
  | .union span _ => span
  | .operation _ left right => ⟨left.span.start, right.span.stop⟩

/-- A pattern. -/
inductive Tree where
  /-- Nothing, which matches everywhere. -/
  | nothing (span : Span)
  /-- An atom. -/
  | atom (a : Atom)
  /-- A class in brackets, perhaps for the characters outside of it. -/
  | brackets (span : Span) (negated : Bool) (inner : ClassTree)
  /-- Flags for what comes after them in the same group. -/
  | flags (span : Span) (change : ModeChange)
  /-- A repetition; a lazy one prefers to match little. -/
  | repetition (span : Span) (least : Nat) (most : Option Nat) (lazy : Bool) (inner : Tree)
  /-- A group; a captured one is remembered. -/
  | group (span : Span) (captured : Bool) (change : ModeChange) (inner : Tree)
  /-- Several patterns in a row. -/
  | sequence (span : Span) (items : List Tree)
  /-- Several patterns to choose from. -/
  | choice (span : Span) (branches : List Tree)

namespace Tree

/-- Where a pattern is. -/
def span : Tree → Span
  | .nothing span | .brackets span _ _ | .flags span _ | .repetition span _ _ _ _
  | .group span _ _ _ | .sequence span _ | .choice span _ => span
  | .atom a => a.span

/-- Whether a part can be repeated. -/
def repeatable : Tree → Bool
  | .nothing _ | .flags _ _ => false
  | _ => true

end Tree

/-! ## How deep a pattern is -/

/-- The pattern's parts that stand inside of each other are at most this many. -/
def depthLimit : Nat := 250

/-- Refuses a part that has no room left. -/
def refuseDeep (room : Nat) (span : Span) : Except Fault Unit :=
  if room = 0 then .error { flaw := .tooDeep depthLimit, span := span } else .ok ()

mutual

/-- Refuses a class that has parts deeper than there is room. -/
def ClassTree.checkDepth (room : Nat) : ClassTree → Except Fault Unit
  | .bracketed span _ inner => do
    refuseDeep room span
    inner.checkDepth (room - 1)
  | .union span items => do
    refuseDeep room span
    ClassTree.checkDepths (room - 1) items
  | .operation op left right => do
    refuseDeep room (ClassTree.operation op left right).span
    left.checkDepth (room - 1)
    right.checkDepth (room - 1)
  | _ => .ok ()

/-- Refuses classes of which one has parts deeper than there is room. -/
def ClassTree.checkDepths (room : Nat) : List ClassTree → Except Fault Unit
  | [] => .ok ()
  | c :: rest => do
    c.checkDepth room
    ClassTree.checkDepths room rest

end

mutual

/-- Refuses a pattern that has parts deeper than there is room. -/
def Tree.checkDepth (room : Nat) : Tree → Except Fault Unit
  | .brackets span _ inner => do
    refuseDeep room span
    inner.checkDepth (room - 1)
  | .repetition span _ _ _ inner | .group span _ _ inner => do
    refuseDeep room span
    inner.checkDepth (room - 1)
  | .sequence span items | .choice span items => do
    refuseDeep room span
    Tree.checkDepths (room - 1) items
  | _ => .ok ()

/-- Refuses patterns of which one has parts deeper than there is room. -/
def Tree.checkDepths (room : Nat) : List Tree → Except Fault Unit
  | [] => .ok ()
  | t :: rest => do
    t.checkDepth room
    Tree.checkDepths room rest

end

end CoilProbe.Pattern
