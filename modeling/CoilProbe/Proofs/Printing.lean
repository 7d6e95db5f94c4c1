import CoilProbe.Sink

/-!
# Lines on an output

A sink that does not fail has taken all that was written to it. `taken_writeLine` says so of a
line, and `takes_of_unlimited` that a sink without a limit does not fail.
-/

namespace CoilProbe

namespace Utf8

theorem encode_append (a b : String) : encode (a ++ b) = encode a ++ encode b := by
  simp only [encode, String.toUTF8_eq_toByteArray, String.toByteArray_append,
    ByteArray.data_append, Array.toList_append]

theorem encode_inj {a b : String} : encode a = encode b ↔ a = b := by
  rw [encode, encode, Array.toList_inj, ← ByteArray.ext_iff, String.toUTF8_eq_toByteArray,
    String.toUTF8_eq_toByteArray, String.toByteArray_inj]

theorem encode_line_ne_nil (text : String) : encode (text ++ "\n") ≠ [] := by
  intro h
  rw [encode_append] at h
  have hend : encode "\n" = [] := (List.append_eq_nil_iff.1 h).2
  revert hend
  decide

end Utf8

namespace Sink

/-- A sink that takes any of some lines. -/
def Takes (lines : List String) (k : Sink) : Prop :=
  ∀ line ∈ lines, (k.writeLine line).fault = none

/-- A sink takes bytes without end, a few at a time. -/
def Unlimited (k : Sink) : Prop := k.room = none ∧ k.chunk ≠ some 0

/-- A sink that does not fail has taken all bytes, after those that it had taken before. -/
theorem taken_write {bytes : Bytes} {k : Sink} (h : (k.write bytes).fault = none) :
    (k.write bytes).sink.taken = k.taken ++ bytes := by
  fun_induction write bytes k with
  | case1 k => exact (List.append_nil k.taken).symm
  | case2 bytes k hne hi ih => exact ih h
  | case3 bytes k hne hi hzero => cases h
  | case4 bytes k hne hi hzero ih =>
    rw [ih h]
    have hsplit := List.take_append_drop (k.capacity bytes.length) bytes
    rw [take, List.append_assoc, hsplit]

theorem Unlimited.capacity_pos {k : Sink} (hk : k.Unlimited) {n : Nat} (hn : 0 < n) :
    0 < k.capacity n := by
  obtain ⟨hroom, hchunk⟩ := hk
  rw [capacity, hroom]
  cases hc : k.chunk with
  | none => exact hn
  | some m =>
    have hm : m ≠ 0 := fun h => hchunk (by rw [hc, h])
    simp only [cap]
    omega

/-- A sink without a limit does not fail, and has none after it has taken something. -/
theorem Unlimited.write {k : Sink} (hk : k.Unlimited) (bytes : Bytes) :
    (k.write bytes).fault = none ∧ (k.write bytes).sink.Unlimited := by
  fun_induction Sink.write bytes k with
  | case1 k => exact ⟨rfl, hk⟩
  | case2 bytes k hne hi ih => exact ih hk
  | case3 bytes k hne hi hzero =>
    have hpos := hk.capacity_pos (List.length_pos_iff.2 hne)
    omega
  | case4 bytes k hne hi hzero ih =>
    refine ih ⟨?_, hk.2⟩
    rw [take, hk.1]
    rfl

/-- A sink that takes a line has taken its text and the end of the line. -/
theorem taken_writeLine {text : String} {k : Sink} (h : (k.writeLine text).fault = none) :
    (k.writeLine text).sink.taken = k.taken ++ Utf8.encode (text ++ "\n") := by
  rw [writeLine] at h ⊢
  cases htext : (k.write (Utf8.encode text)).fault with
  | some fault =>
    simp only [htext] at h
    cases h
  | none =>
    simp only [htext] at h ⊢
    rw [taken_write h, taken_write htext, List.append_assoc, Utf8.encode_append]

theorem takes_of_unlimited {k : Sink} (hk : k.Unlimited) (lines : List String) :
    k.Takes lines := by
  intro line _
  obtain ⟨hfault, hafter⟩ := hk.write (Utf8.encode line)
  rw [writeLine]
  simp only [hfault]
  exact (hafter.write (Utf8.encode "\n")).1

end Sink

end CoilProbe
