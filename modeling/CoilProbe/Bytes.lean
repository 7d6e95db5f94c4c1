/-!
# Bytes and big-endian words

What travels between a client and a server is a list of bytes. Numbers of two bytes travel with
their high byte first. `word_wordBytes` and `wordBytes_word` say that a word and its two bytes
determine each other.
-/

namespace CoilProbe

/-- A string of bytes, in the order in which they travel. -/
abbrev Bytes := List UInt8

/-- The word with the given high and low byte. -/
def word (hi lo : UInt8) : UInt16 := UInt16.ofNat (hi.toNat * 256 + lo.toNat)

/-- The high byte of a word. -/
def highByte (w : UInt16) : UInt8 := UInt8.ofNat (w.toNat / 256)

/-- The low byte of a word. -/
def lowByte (w : UInt16) : UInt8 := UInt8.ofNat (w.toNat % 256)

/-- A word as it travels: the high byte, then the low one. -/
def wordBytes (w : UInt16) : Bytes := [highByte w, lowByte w]

theorem toNat_word (hi lo : UInt8) : (word hi lo).toNat = hi.toNat * 256 + lo.toNat := by
  have h1 := hi.toNat_lt
  have h2 := lo.toNat_lt
  simp only [word, UInt16.toNat_ofNat']
  omega

theorem toNat_highByte (w : UInt16) : (highByte w).toNat = w.toNat / 256 := by
  have h := w.toNat_lt
  simp only [highByte, UInt8.toNat_ofNat']
  omega

theorem toNat_lowByte (w : UInt16) : (lowByte w).toNat = w.toNat % 256 := by
  simp only [lowByte, UInt8.toNat_ofNat']
  omega

/-- Putting the two bytes of a word together again gives the word. -/
@[simp] theorem word_wordBytes (w : UInt16) : word (highByte w) (lowByte w) = w := by
  apply UInt16.toNat.inj
  rw [toNat_word, toNat_highByte, toNat_lowByte]
  omega

/-- The two bytes of a word are the ones it was made of. -/
@[simp] theorem wordBytes_word (hi lo : UInt8) : wordBytes (word hi lo) = [hi, lo] := by
  have h2 := lo.toNat_lt
  have e1 : highByte (word hi lo) = hi := by
    apply UInt8.toNat.inj
    rw [toNat_highByte, toNat_word]
    omega
  have e2 : lowByte (word hi lo) = lo := by
    apply UInt8.toNat.inj
    rw [toNat_lowByte, toNat_word]
    omega
  rw [wordBytes, e1, e2]

@[simp] theorem length_wordBytes (w : UInt16) : (wordBytes w).length = 2 := rfl

end CoilProbe
