import CoilProbe.Text.Digits

/-!
# What is wrong with a pattern

A `Fault` of a pattern is a flaw and the place where it is. Its text shows the pattern, with the
place marked on a line below it, and says what the flaw is. A pattern of several lines is shown with
the numbers of its lines between two rules.
-/

namespace CoilProbe.Pattern

/-- Characters of a pattern that stand in a row, from the one numbered `start` up to, but not
including, the one numbered `stop`. -/
structure Span where
  /-- How many characters stand before them. -/
  start : Nat
  /-- How many characters stand before their end. -/
  stop : Nat
deriving DecidableEq

/-- What can be wrong with a pattern. -/
inductive Flaw where
  /-- A group that is not closed. -/
  | groupUnclosed
  /-- The end of a group that was not opened. -/
  | groupUnopened
  /-- A group that looks around, which patterns cannot. -/
  | lookAround
  /-- A reference to what a group matched, which patterns cannot make. -/
  | backReference
  /-- A group's name without characters. -/
  | nameEmpty
  /-- A character that names cannot have. -/
  | nameCharacter
  /-- A group's name that is not closed. -/
  | nameUnclosed
  /-- The name of another group. -/
  | nameRepeated
  /-- A character that is no flag. -/
  | flagUnknown
  /-- A flag given twice. -/
  | flagRepeated
  /-- A second negation of flags. -/
  | negationRepeated
  /-- A negation of no flags. -/
  | negationDangling
  /-- Flags that are not closed. -/
  | flagsUnclosed
  /-- A repetition of nothing. -/
  | nothingToRepeat
  /-- A count of repetitions that is not closed. -/
  | countUnclosed
  /-- A count of repetitions without a number. -/
  | countMissing
  /-- A number that is too large. -/
  | numberTooLarge
  /-- A count of repetitions whose greatest number is less than its least one. -/
  | countReversed
  /-- A class that is not closed. -/
  | classUnclosed
  /-- A range of characters whose last one comes before its first one. -/
  | rangeReversed
  /-- A range of characters that does not begin and end with one. -/
  | rangeBoundary
  /-- An escape that classes cannot have. -/
  | classEscape
  /-- An escape that is cut off. -/
  | escapeUnfinished
  /-- An escape without a meaning. -/
  | escapeUnknown
  /-- A character's number without digits. -/
  | hexEmpty
  /-- A character that is no hexadecimal digit. -/
  | hexDigit
  /-- A number that is no character's. -/
  | hexNoCharacter
  /-- A word boundary with a name that is not closed. -/
  | boundaryUnclosed
  /-- A word boundary with a name that means nothing. -/
  | boundaryUnknown
  /-- A brace behind a word boundary with nothing after it. -/
  | boundaryUnfinished
  /-- A class of characters with a property that is not named. -/
  | propertyMissing
  /-- Groups, classes and repetitions inside of each other beyond a limit. -/
  | tooDeep (limit : Nat)
  /-- A character outside of ASCII where bytes are meant. -/
  | characterNotAllowed
  /-- A part that could match bytes that are no text. -/
  | bytesNotAllowed
  /-- A property of characters that is not known. -/
  | propertyUnknown
  /-- A class of characters that is known for ASCII only. -/
  | classUnknown
  /-- Letters whose case is to be ignored, which is known for ASCII only. -/
  | caseUnknown
deriving DecidableEq

/-- What a flaw is, in words. -/
def Flaw.message : Flaw → String
  | .groupUnclosed => "unclosed group"
  | .groupUnopened => "unopened group"
  | .lookAround => "look-around, including look-ahead and look-behind, is not supported"
  | .backReference => "backreferences are not supported"
  | .nameEmpty => "empty capture group name"
  | .nameCharacter => "invalid capture group character"
  | .nameUnclosed => "unclosed capture group name"
  | .nameRepeated => "duplicate capture group name"
  | .flagUnknown => "unrecognized flag"
  | .flagRepeated => "duplicate flag"
  | .negationRepeated => "flag negation operator repeated"
  | .negationDangling => "dangling flag negation operator"
  | .flagsUnclosed => "expected flag but got end of regex"
  | .nothingToRepeat => "repetition operator missing expression"
  | .countUnclosed => "unclosed counted repetition"
  | .countMissing => "repetition quantifier expects a valid decimal"
  | .numberTooLarge => "decimal literal invalid"
  | .countReversed => "invalid repetition count range, the start must be <= the end"
  | .classUnclosed => "unclosed character class"
  | .rangeReversed => "invalid character class range, the start must be <= the end"
  | .rangeBoundary => "invalid range boundary, must be a literal"
  | .classEscape => "invalid escape sequence found in character class"
  | .escapeUnfinished => "incomplete escape sequence, reached end of pattern prematurely"
  | .escapeUnknown => "unrecognized escape sequence"
  | .hexEmpty => "hexadecimal literal empty"
  | .hexDigit => "invalid hexadecimal digit"
  | .hexNoCharacter => "hexadecimal literal is not a Unicode scalar value"
  | .boundaryUnclosed =>
    "special word boundary assertion is either unclosed or contains an invalid character"
  | .boundaryUnknown =>
    "unrecognized special word boundary assertion, valid choices are: start, end, start-half "
      ++ "or end-half"
  | .boundaryUnfinished =>
    "found either the beginning of a special word boundary or a bounded repetition on a \\b with "
      ++ "an opening brace, but no closing brace"
  | .propertyMissing => "invalid Unicode character class"
  | .tooDeep limit =>
    "exceed the maximum number of nested parentheses/brackets (" ++ toString limit ++ ")"
  | .characterNotAllowed => "Unicode not allowed here"
  | .bytesNotAllowed => "pattern can match invalid UTF-8"
  | .propertyUnknown => "Unicode property not found"
  | .classUnknown =>
    "Unicode-aware Perl class not found (make sure the unicode-perl feature is enabled)"
  | .caseUnknown =>
    "Unicode-aware case insensitivity matching is not available (make sure the unicode-case "
      ++ "feature is enabled)"

/-- A flaw and where it is. -/
structure Fault where
  /-- The flaw. -/
  flaw : Flaw
  /-- Where it is. -/
  span : Span
  /-- What came before that it repeats, if it repeats something. -/
  earlier : Option Span := none
deriving DecidableEq

/-! ## The text of a fault -/

/-- A place in a text by line and column, both counted from one. -/
structure Position where
  /-- The line. -/
  line : Nat
  /-- The column. -/
  column : Nat
deriving DecidableEq

/-- The position behind a text that begins at a position. -/
def Position.behind (p : Position) : List Char → Position
  | [] => p
  | c :: cs => if c = '\n' then behind ⟨p.line + 1, 1⟩ cs else behind ⟨p.line, p.column + 1⟩ cs

/-- The position of the character with a number. -/
def Position.of (pattern : List Char) (place : Nat) : Position :=
  behind ⟨1, 1⟩ (pattern.take place)

/-- The lines of a text, without their ends. A line that ends with the text is one only if it holds
something. -/
def linesOf : List Char → List (List Char)
  | [] => []
  | '\r' :: '\n' :: cs => [] :: linesOf cs
  | '\n' :: cs => [] :: linesOf cs
  | c :: cs =>
    match linesOf cs with
    | [] => [[c]]
    | line :: lines => (c :: line) :: lines

/-- A span with the positions of its ends. -/
structure Marked where
  /-- Where it begins. -/
  start : Position
  /-- Where it ends. -/
  stop : Position

/-- A span of a pattern with the positions of its ends. -/
def Span.marked (pattern : List Char) (s : Span) : Marked :=
  ⟨.of pattern s.start, .of pattern s.stop⟩

/-- The spans that a fault points at, in their order. -/
def Fault.spans (f : Fault) : List Span :=
  match f.earlier with
  | none => [f.span]
  | some earlier => if earlier.start ≤ f.span.start then [earlier, f.span] else [f.span, earlier]

/-- The marks for spans of one line behind the given column: at least one for each. -/
def markLine (column : Nat) : List Marked → List Char
  | [] => []
  | m :: rest =>
    let width := max 1 (m.stop.column - m.start.column)
    List.replicate (m.start.column - column) ' ' ++ List.replicate width '^'
      ++ markLine (max column m.start.column + width) rest

/-- The lines of a pattern with marks below them; `lead` is what stands before a line with a
number, and marks are moved by `indent`. -/
def markedLines (lead : Nat → List Char) (indent : Nat) (marks : List Marked) :
    Nat → List (List Char) → List Char
  | _, [] => []
  | number, line :: lines =>
    let here := marks.filter (·.start.line = number)
    lead number ++ line ++ '\n' ::
      ((if here.isEmpty then [] else List.replicate indent ' ' ++ markLine 1 here ++ ['\n'])
        ++ markedLines lead indent marks (number + 1) lines)

/-- The note about a span of several lines. -/
def Marked.note (m : Marked) : String :=
  "on line " ++ toString m.start.line ++ " (column " ++ toString m.start.column ++ ") through line "
    ++ toString m.stop.line ++ " (column " ++ toString (m.stop.column - 1) ++ ")"

/-- The text of a fault of a pattern. -/
def Fault.text (pattern : List Char) (f : Fault) : String :=
  let marks := f.spans.map (·.marked pattern)
  let (short, long) := marks.partition fun m => m.start.line = m.stop.line
  let lines := linesOf pattern
  let count := lines.length + if pattern.getLast? = some '\n' then 1 else 0
  let width := if count ≤ 1 then 0 else (decimal count).length
  let lead := fun number =>
    if width = 0 then List.replicate 4 ' ' else (decimal number).leftpad width ' ' ++ [':', ' ']
  let indent := if width = 0 then 4 else width + 2
  let shown := String.ofList (markedLines lead indent short 1 lines)
  let rule := String.ofList (List.replicate 79 '~') ++ "\n"
  let notes := if long = [] then "" else "\n".intercalate (long.map Marked.note) ++ "\n"
  "regex parse error:\n" ++ (if '\n' ∈ pattern then rule ++ shown ++ rule ++ notes else shown)
    ++ "error: " ++ f.flaw.message

end CoilProbe.Pattern
