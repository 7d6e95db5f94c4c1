import CoilProbe.Text.Utf8

/-!
# Arguments

An argument of a command line is a row of glyphs, since the bytes that the operating system hands
over need not be UTF-8.
-/

namespace CoilProbe

/-- An argument of a command line. -/
abbrev Argument := List Glyph

namespace Argument

/-- The argument that is a text. -/
def ofString (text : String) : Argument := text.toList.map some

/-- The argument of some bytes. -/
def ofBytes (bytes : Bytes) : Argument := Utf8.decode bytes

/-- The characters of an argument without damaged places. -/
def chars? : Argument → Option (List Char)
  | [] => some []
  | none :: _ => none
  | some c :: rest => (chars? rest).map (c :: ·)

/-- The argument as it is shown: damaged places are replaced. -/
def shown (a : Argument) : String := Utf8.replaced a

/-- The part before the first `=`, and the part after it if there is one. -/
def splitValue : Argument → Argument × Option Argument
  | [] => ([], none)
  | some '=' :: rest => ([], some rest)
  | g :: rest =>
    let (name, value) := splitValue rest
    (g :: name, value)

end Argument

end CoilProbe
