import CoilProbe.Bytes

/-!
# UTF-8

Text is written as UTF-8. Bytes are read as characters. Where they are no UTF-8, each longest
beginning of a character that is not finished, and each byte that begins none, counts as one damaged
place.
-/

namespace CoilProbe

/-- A character, or a damaged place where one should be. -/
abbrev Glyph := Option Char

namespace Utf8

/-- The bytes of a text. -/
def encode (text : String) : Bytes := text.toUTF8.data.toList

/-- A character of which some bytes are missing. -/
structure Unfinished where
  /-- The bits of the bytes so far. -/
  bits : Nat
  /-- How many bytes are missing. -/
  missing : Nat
  /-- The least value of the next byte. -/
  low : Nat
  /-- The greatest value of the next byte. -/
  high : Nat

/-- What a byte at the beginning of a character comes to: the glyphs that are finished by it, and
the character that it begins. -/
def start (b : UInt8) : List Glyph × Option Unfinished :=
  let n := b.toNat
  if n < 0x80 then ([some (Char.ofNat n)], none)
  else if n < 0xc2 then ([none], none)
  else if n < 0xe0 then ([], some ⟨n - 0xc0, 1, 0x80, 0xbf⟩)
  else if n = 0xe0 then ([], some ⟨0, 2, 0xa0, 0xbf⟩)
  else if n = 0xed then ([], some ⟨0xd, 2, 0x80, 0x9f⟩)
  else if n < 0xf0 then ([], some ⟨n - 0xe0, 2, 0x80, 0xbf⟩)
  else if n = 0xf0 then ([], some ⟨0, 3, 0x90, 0xbf⟩)
  else if n < 0xf4 then ([], some ⟨n - 0xf0, 3, 0x80, 0xbf⟩)
  else if n = 0xf4 then ([], some ⟨4, 3, 0x80, 0x8f⟩)
  else ([none], none)

/-- What the next byte comes to. A byte that does not go on with an unfinished character damages it
and begins anew. -/
def next (state : Option Unfinished) (b : UInt8) : List Glyph × Option Unfinished :=
  match state with
  | none => start b
  | some u =>
    if u.low ≤ b.toNat ∧ b.toNat ≤ u.high then
      let bits := u.bits * 64 + (b.toNat - 0x80)
      if u.missing = 1 then ([some (Char.ofNat bits)], none)
      else ([], some ⟨bits, u.missing - 1, 0x80, 0xbf⟩)
    else
      let (glyphs, after) := start b
      (none :: glyphs, after)

/-- The glyphs of some bytes, after an unfinished character. -/
def decodeFrom (state : Option Unfinished) : Bytes → List Glyph
  | [] => if state.isSome then [none] else []
  | b :: rest =>
    let (glyphs, after) := next state b
    glyphs ++ decodeFrom after rest

/-- The glyphs of some bytes. -/
def decode (bytes : Bytes) : List Glyph := decodeFrom none bytes

/-- The text of some glyphs, with the replacement character for damaged places. -/
def replaced (glyphs : List Glyph) : String :=
  String.ofList (glyphs.map fun g => g.getD '\ufffd')

end Utf8

end CoilProbe
