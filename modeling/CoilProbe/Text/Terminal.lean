import CoilProbe.Text.Utf8

/-!
# Text for an output that is no terminal

Text that comes from outside may hold control sequences for a terminal. They are left out of what is
printed elsewhere: control characters that are not blank, and escape sequences to their end.
Sequences are told apart byte by byte, so a byte of a character's UTF-8 form can end a control
string.

A blank in the middle of a sequence is printed, and so is the text right after it; whether the
sequence goes on behind that text is what an `Interruption` says.
-/

namespace CoilProbe

/-- Where in a text with control sequences one is. -/
inductive TerminalState where
  /-- Outside of them. -/
  | ground
  /-- After an escape. -/
  | escape
  /-- In an escape sequence that has more to come. -/
  | escapeMore
  /-- In a control sequence. -/
  | control
  /-- In a command to the operating system, which ends at a bell. -/
  | command
  /-- At the beginning of a device control string. -/
  | device
  /-- In the parameters of a device control string. -/
  | deviceParameters
  /-- Behind the parameters of a device control string. -/
  | deviceMore
  /-- In a control string, which ends at its terminator. -/
  | string
deriving DecidableEq

/-- What a blank in the middle of a control sequence does to it. -/
inductive Interruption where
  /-- The blank ends it. -/
  | ends
  /-- The sequence goes on behind the text after the blank. -/
  | pauses
deriving DecidableEq

namespace TerminalState

/-- Whether a byte is a control character that is printed, since it is blank. -/
def isBlankControl (b : UInt8) : Bool := b == 0x09 || b == 0x0a || b == 0x0c || b == 0x0d

/-- Whether a byte is a character that is printed outside of control sequences. -/
def isPlain (b : UInt8) : Bool := (0x20 ≤ b && b < 0x7f) || isBlankControl b

/-- Where one is after a byte that is neither a control character nor outside of ASCII. -/
def afterPrintable (s : TerminalState) (b : UInt8) : TerminalState :=
  match s with
  | .ground | .command | .string => s
  | .escape =>
    if b < 0x30 then .escapeMore
    else if b = 0x5b then .control
    else if b = 0x5d then .command
    else if b = 0x50 then .device
    else if b = 0x58 ∨ b = 0x5e ∨ b = 0x5f then .string
    else .ground
  | .escapeMore => if b < 0x30 then .escapeMore else .ground
  | .control => if b < 0x40 then .control else .ground
  | .device => if b < 0x30 then .deviceMore else if b < 0x40 then .deviceParameters else .string
  | .deviceParameters =>
    if b < 0x30 then .deviceMore else if b < 0x3c then .deviceParameters else .string
  | .deviceMore => if b < 0x30 then .deviceMore else .string

/-- Where one is after a byte. -/
def after (s : TerminalState) (b : UInt8) : TerminalState :=
  if b = 0x1b then .escape
  else if b = 0x18 ∨ b = 0x1a then .ground
  else if s = .command ∧ b = 0x07 then .ground
  else if s = .string ∧ b = 0x9c then .ground
  else if 0x20 ≤ b ∧ b < 0x7f then s.afterPrintable b
  else s

/-- Whether a byte is printed: outside of control sequences if it is plain or begins a character,
and in sequences that are no strings if it is a blank. -/
def prints (s : TerminalState) (b : UInt8) : Bool :=
  match s with
  | .ground => isPlain b || 0xc0 ≤ b
  | .escape | .escapeMore | .control => isBlankControl b
  | .command | .device | .deviceParameters | .deviceMore | .string => false

/-- What is printed of some bytes. `running` is whether the byte before them was printed: then they
are printed up to the next control character. -/
def printed (blanks : Interruption) : (running : Bool) → TerminalState → Bytes → Bytes
  | _, _, [] => []
  | true, s, b :: rest =>
    if 0x80 ≤ b then b :: printed blanks true .ground rest
    else if isPlain b then b :: printed blanks true s rest
    else printed blanks false (s.after b) rest
  | false, s, b :: rest =>
    if s.prints b then
      b :: printed blanks true (match blanks with | .ends => .ground | .pauses => s.after b) rest
    else printed blanks false (s.after b) rest

end TerminalState

/-- A text without its control sequences. -/
def withoutControls (blanks : Interruption) (text : String) : String :=
  Utf8.replaced (Utf8.decode (TerminalState.ground.printed blanks false (Utf8.encode text)))

end CoilProbe
