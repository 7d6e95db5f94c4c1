import CoilProbe.Bytes

/-!
# Numbers as text

Decimal numbers have no leading zeros. Hexadecimal numbers are lower case unless a place asks for
upper case, and have leading zeros where a place has a fixed width.
-/

namespace CoilProbe

/-- The decimal digits of a number, without leading zeros; zero is `0`. -/
def decimal (n : Nat) : List Char := Nat.toDigits 10 n

/-- The lower-case hexadecimal digits of a number, without leading zeros; zero is `0`. -/
def hex (n : Nat) : List Char := Nat.toDigits 16 n

/-- The hexadecimal digits of a byte or word in lower case, filled up with zeros to `width`. -/
def hexFilled (width n : Nat) : List Char := (hex n).leftpad width '0'

/-- The hexadecimal digits of a byte or word in upper case, filled up with zeros to `width`. -/
def hexUpper (width n : Nat) : List Char := (hexFilled width n).map Char.toUpper

/-- The value of a decimal digit. -/
def decimalDigit? (c : Char) : Option Nat :=
  if '0' ≤ c ∧ c ≤ '9' then some (c.toNat - '0'.toNat) else none

/-- The value of a hexadecimal digit of either case. -/
def hexDigit? (c : Char) : Option Nat :=
  if '0' ≤ c ∧ c ≤ '9' then some (c.toNat - '0'.toNat)
  else if 'a' ≤ c ∧ c ≤ 'f' then some (c.toNat - 'a'.toNat + 10)
  else if 'A' ≤ c ∧ c ≤ 'F' then some (c.toNat - 'A'.toNat + 10)
  else none

/-- The number that a row of digit values stands for. -/
def ofDigits (base : Nat) (digits : List Nat) : Nat :=
  digits.foldl (fun n d => n * base + d) 0

end CoilProbe
