import CoilProbe.Pattern.Cursor
import CoilProbe.Pattern.Matcher
import CoilProbe.Pattern.Tree

/-!
# What patterns match

The meaning of a pattern depends on the modes that its flags set. Letters, and their cases, are
known in ASCII only: a pattern that asks for more is refused. So is a pattern that may match single
bytes of a character, since a text has whole characters.
-/

namespace CoilProbe.Pattern

/-- The modes of a pattern at some place. -/
structure Modes where
  /-- Whether letters match in either case. -/
  caseless : Bool := false
  /-- Whether lines have beginnings and ends. -/
  multiline : Bool := false
  /-- Whether the dot matches the end of a line. -/
  dotAll : Bool := false
  /-- Whether repetitions prefer to match little. -/
  lazy : Bool := false
  /-- Whether characters are meant, not bytes. -/
  unicode : Bool := true
  /-- Whether lines may end with a carriage return. -/
  crlf : Bool := false
deriving DecidableEq

/-- The modes after a change. -/
def Modes.change (change : ModeChange) (m : Modes) : Modes where
  caseless := change.apply .caseless m.caseless
  multiline := change.apply .multiline m.multiline
  dotAll := change.apply .dotAll m.dotAll
  lazy := change.apply .lazy m.lazy
  unicode := change.apply .unicode m.unicode
  crlf := change.apply .crlf m.crlf

/-- Refuses a part of a pattern. -/
def Span.refuse {α : Type} (flaw : Flaw) (span : Span) : Checked α :=
  .error { flaw := flaw, span := span }

/-! ## Characters and classes -/

/-- A set with the other case of its letters where case is ignored. -/
def Modes.fold (span : Span) (set : CharSet) (m : Modes) : Checked CharSet :=
  if !m.caseless then .ok set
  else if !m.unicode then .ok set.caseless
  else if set = [] then .ok set
  else span.refuse .caseUnknown

/-- The characters of a set or those outside of it. Bytes outside of a set are no characters. -/
def Modes.negate (span : Span) (negated : Bool) (set : CharSet) (m : Modes) : Checked CharSet :=
  if !negated then .ok set
  else if m.unicode then .ok set.complement
  else span.refuse .bytesNotAllowed

/-- The characters that a class with the given set has. -/
def Modes.close (span : Span) (negated : Bool) (set : CharSet) (m : Modes) : Checked CharSet := do
  m.negate span negated (← m.fold span set)

/-- A class with an escape of its own. -/
def Modes.escapedClass (span : Span) (negated : Bool) (c : AsciiClass) (m : Modes) :
    Checked CharSet :=
  if m.unicode then span.refuse .classUnknown else m.negate span negated c.chars

/-- The characters with a property, of which none is known. -/
def Modes.property (span : Span) (m : Modes) : Checked CharSet :=
  span.refuse (if m.unicode then .propertyUnknown else .characterNotAllowed)

/-- Refuses a character that is written as a byte and is no ASCII character, where bytes are
meant. -/
def Modes.checkByte (l : Literal) (m : Modes) : Checked Unit :=
  if !m.unicode ∧ l.asByte ∧ 0x80 ≤ l.char.toNat then l.span.refuse .bytesNotAllowed else .ok ()

/-- The code point of a character in a class. -/
def Modes.classChar (l : Literal) (m : Modes) : Checked Char := do
  m.checkByte l
  if !m.unicode ∧ 0x80 ≤ l.char.toNat then l.span.refuse .characterNotAllowed else return l.char

/-- What an operation makes of two sets. -/
def SetOperation.apply : SetOperation → CharSet → CharSet → CharSet
  | .intersection => .inter
  | .difference => .diff
  | .symmetricDifference => .symmDiff

mutual

/-- The characters of a class. -/
def ClassTree.chars (m : Modes) : ClassTree → Checked CharSet
  | .nothing _ => .ok []
  | .literal l => do return .only (← m.classChar l)
  | .range first last => do return .range (← m.classChar first) (← m.classChar last)
  | .named span negated c => m.close span negated c.chars
  | .escapedClass span negated c => m.escapedClass span negated c
  | .property span => m.property span
  | .bracketed span negated inner => do m.close span negated (← inner.chars m)
  | .union _ items => do return .ofRanges (← ClassTree.rangesOfAll m items)
  | .operation op left right => do
    let first ← left.chars m
    let second ← right.chars m
    let second ← m.fold right.span second
    let first ← m.fold left.span first
    return op.apply first second

/-- The ranges of some classes. -/
def ClassTree.rangesOfAll (m : Modes) : List ClassTree → Checked (List CodeRange)
  | [] => .ok []
  | c :: rest => do return (← c.chars m) ++ (← ClassTree.rangesOfAll m rest)

end

/-! ## Atoms -/

/-- The matcher of one character of a set. -/
def Modes.ofSet (set : CharSet) (m : Modes) : Matcher := .ofSet (!m.unicode) set

/-- The matcher of a character. -/
def Modes.literal (l : Literal) (m : Modes) : Checked Matcher := do
  m.checkByte l
  if !m.caseless then return .text [l.char]
  else if m.unicode then l.span.refuse .caseUnknown
  else return m.ofSet (CharSet.only l.char).caseless

/-- The matcher of a dot. -/
def Modes.dot (span : Span) (m : Modes) : Checked Matcher :=
  if !m.unicode then span.refuse .bytesNotAllowed
  else if m.dotAll then .ok (m.ofSet .all)
  else if m.crlf then .ok (m.ofSet ((CharSet.only '\n').union (.only '\r')).complement)
  else .ok (m.ofSet (CharSet.only '\n').complement)

/-- What an assertion asserts. -/
def Modes.look (a : Assertion) (m : Modes) : Look :=
  match a with
  | .lineStart => if m.multiline then .lineStart m.crlf else .textStart
  | .lineEnd => if m.multiline then .lineEnd m.crlf else .textEnd
  | .textStart => .textStart
  | .textEnd => .textEnd
  | .boundary => .word (!m.unicode) .either
  | .noBoundary => .word (!m.unicode) .neither
  | .wordStart => .word (!m.unicode) .start
  | .wordEnd => .word (!m.unicode) .stop
  | .wordStartHalf => .word (!m.unicode) .startHalf
  | .wordEndHalf => .word (!m.unicode) .stopHalf

/-- The matcher of an atom. -/
def Modes.atom (a : Atom) (m : Modes) : Checked Matcher :=
  match a with
  | .literal l => m.literal l
  | .dot span => m.dot span
  | .assertion _ a => .ok (.look (m.look a))
  | .escapedClass span negated c => return m.ofSet (← m.escapedClass span negated c)
  | .property span => return m.ofSet (← m.property span)

/-! ## Patterns -/

mutual

/-- What a pattern matches in some modes, and the modes behind it. A captured group has the number
of the place where it begins. -/
def Tree.meaning (m : Modes) : Tree → Checked (Matcher × Modes)
  | .nothing _ => .ok (.empty, m)
  | .atom a => do return (← m.atom a, m)
  | .brackets span negated inner => do
    return (m.ofSet (← m.close span negated (← inner.chars m)), m)
  | .flags _ change => .ok (.empty, m.change change)
  | .repetition _ least most few inner => do
    let (matcher, after) ← inner.meaning m
    return (matcher.times least most (few != after.lazy), after)
  | .group span captured change inner => do
    let (matcher, _) ← inner.meaning (m.change change)
    return (if captured then .captured span.start matcher else matcher, m)
  | .sequence _ items => do
    let (matchers, after) ← Tree.meanings m items
    return (.sequence matchers, after)
  | .choice _ branches => do
    let (matchers, after) ← Tree.meanings m branches
    return (.choice matchers, after)

/-- What patterns match that come one after the other, and the modes behind the last one. Flags hold
for the branches behind theirs, too. -/
def Tree.meanings (m : Modes) : List Tree → Checked (List Matcher × Modes)
  | [] => .ok ([], m)
  | t :: rest => do
    let (matcher, after) ← t.meaning m
    let (matchers, after) ← Tree.meanings after rest
    return (matcher :: matchers, after)

end

end CoilProbe.Pattern
