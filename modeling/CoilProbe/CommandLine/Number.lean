import CoilProbe.Text.Digits

/-!
# Numbers on the command line

A number is an optional plus sign and decimal digits, and must fit into 64 bits. It is read from
left to right, and the first character that is no digit or that makes the number too large decides
what is wrong with it; where one does both, it is no digit.
-/

namespace CoilProbe

/-- Why a text is no number. -/
inductive NumberFault where
  /-- There is nothing. -/
  | empty
  /-- There is something other than a digit. -/
  | digit
  /-- It does not fit into 64 bits. -/
  | tooLarge
deriving DecidableEq

/-- The text of a fault. -/
def NumberFault.message : NumberFault → String
  | .empty => "cannot parse integer from empty string"
  | .digit => "invalid digit found in string"
  | .tooLarge => "number too large to fit in target type"

/-- Reads digits after those that make up `value`. -/
def readDigits (value : Nat) : List Char → Except NumberFault Nat
  | [] => .ok value
  | c :: cs =>
    match decimalDigit? c with
    | none => .error .digit
    | some d =>
      if UInt64.size ≤ value * 10 + d then .error .tooLarge else readDigits (value * 10 + d) cs

/-- The number that a text is. -/
def readNumber (cs : List Char) : Except NumberFault UInt64 :=
  match cs with
  | [] => .error .empty
  | ['+'] => .error .digit
  | '+' :: digits => (readDigits 0 digits).map UInt64.ofNat
  | digits => (readDigits 0 digits).map UInt64.ofNat

end CoilProbe
