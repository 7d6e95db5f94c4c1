import CoilProbe.Pattern.CharSet

/-!
# Rows of byte ranges

Bytewise, a range of characters is a few rows of byte ranges: a row stands for the UTF-8 of those
characters whose bytes are in its ranges, one after the other. To find the rows, the range is cut
where the number of bytes changes, and then so that each piece fixes its leading bytes or has all
values of the bytes behind them.
-/

namespace CoilProbe.Pattern

/-- Byte values in a row. -/
structure ByteRange where
  /-- The least one. -/
  first : Nat
  /-- The greatest one. -/
  last : Nat
deriving DecidableEq

/-- A range for each byte of a character. -/
abbrev ByteRow := List ByteRange

/-- The bytes of a code point in UTF-8. -/
def utf8Bytes (n : Nat) : List Nat :=
  if n < 0x80 then [n]
  else if n < 0x800 then [0xc0 + n / 0x40, 0x80 + n % 0x40]
  else if n < 0x10000 then [0xe0 + n / 0x1000, 0x80 + n / 0x40 % 0x40, 0x80 + n % 0x40]
  else [0xf0 + n / 0x40000, 0x80 + n / 0x1000 % 0x40, 0x80 + n / 0x40 % 0x40, 0x80 + n % 0x40]

namespace CodeRange

/-- A range cut before a code point, if this leaves something on both sides. -/
def cutBefore (n : Nat) (r : CodeRange) : List CodeRange :=
  if r.first < n ∧ n ≤ r.last then [⟨r.first, n - 1⟩, ⟨n, r.last⟩] else [r]

/-- A range cut so that its pieces are inside of a block or made of whole blocks. ASCII characters
are a byte each and are left together. -/
def cutAtBlocks (size : Nat) (r : CodeRange) : List CodeRange :=
  if r.last < 0x80 then [r]
  else
    let inner := (r.first + size - 1) / size * size
    let outer := (r.last + 1) / size * size
    (r.cutBefore inner).flatMap (·.cutBefore outer)

/-- A range without the surrogates. -/
def withoutSurrogates (r : CodeRange) : List CodeRange :=
  if r.first < 0xe000 ∧ 0xd7ff < r.last then [⟨r.first, 0xd7ff⟩, ⟨0xe000, r.last⟩] else [r]

/-- The pieces of a range, each of which is a row. -/
def pieces (r : CodeRange) : List CodeRange :=
  let sized := [0x80, 0x800, 0x10000].foldl (fun all n => all.flatMap (·.cutBefore n))
    r.withoutSurrogates
  [0x40, 0x1000, 0x40000].foldl (fun all size => all.flatMap (·.cutAtBlocks size)) sized

/-- The row of a piece. -/
def row (r : CodeRange) : ByteRow :=
  (utf8Bytes r.first).zipWith ByteRange.mk (utf8Bytes r.last)

end CodeRange

/-- The rows of the characters of a set, in ascending order. -/
def CharSet.rows (s : CharSet) : List ByteRow := (s.flatMap CodeRange.pieces).map CodeRange.row

end CoilProbe.Pattern
