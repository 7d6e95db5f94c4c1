import CoilProbe.Net.Fault
import CoilProbe.Text.Utf8

/-!
# Outputs that may fail

A `Sink` takes bytes until it has no room left, a few at a time, and may be interrupted at first.
Writing goes on through interruptions and partial writes until every byte is taken or the sink
takes none.
-/

namespace CoilProbe

/-- An output. -/
structure Sink where
  /-- How many bytes it still takes; any number if this is missing. -/
  room : Option Nat := none
  /-- How many bytes it takes at once; any number if this is missing. -/
  chunk : Option Nat := none
  /-- How many times it is interrupted before it takes anything. -/
  interruptions : Nat := 0
  /-- What it reports where it takes nothing. -/
  fault : Option IoFault := none
  /-- What it has taken. -/
  taken : Bytes := []
deriving DecidableEq

/-- The result of writing. -/
structure Written where
  /-- What went wrong, if something did. -/
  fault : Option IoFault
  /-- The output after it. -/
  sink : Sink
deriving DecidableEq

namespace Sink

/-- The lesser of a number and a limit that may be missing. -/
def cap (limit : Option Nat) (n : Nat) : Nat :=
  match limit with
  | none => n
  | some m => min n m

/-- How many of `n` bytes a sink takes at once. -/
def capacity (s : Sink) (n : Nat) : Nat := cap s.chunk (cap s.room n)

theorem cap_le (limit : Option Nat) (n : Nat) : cap limit n ≤ n := by
  cases limit with
  | none => exact Nat.le_refl n
  | some m => exact Nat.min_le_left n m

/-- A sink takes no more than it is offered. -/
theorem capacity_le (s : Sink) (n : Nat) : s.capacity n ≤ n :=
  Nat.le_trans (cap_le _ _) (cap_le _ _)

/-- A sink after it took some bytes. -/
def take (bytes : Bytes) (s : Sink) : Sink :=
  { s with room := s.room.map (· - bytes.length), taken := s.taken ++ bytes }

/-- Writes bytes until all are taken or the sink takes none. -/
def write (bytes : Bytes) (s : Sink) : Written :=
  if bytes = [] then ⟨none, s⟩
  else if _ : 0 < s.interruptions then
    write bytes { s with interruptions := s.interruptions - 1 }
  else if _ : s.capacity bytes.length = 0 then ⟨some (s.fault.getD .wroteNothing), s⟩
  else
    write (bytes.drop (s.capacity bytes.length)) (s.take (bytes.take (s.capacity bytes.length)))
termination_by bytes.length + s.interruptions
decreasing_by
  · exact Nat.add_lt_add_left (Nat.sub_lt ‹_› Nat.one_pos) _
  · have le := s.capacity_le bytes.length
    rw [List.length_drop, show (s.take _).interruptions = s.interruptions from rfl]
    omega

/-- Writes a text and then, if all of it was taken, the end of its line. -/
def writeLine (text : String) (s : Sink) : Written :=
  let w := s.write (Utf8.encode text)
  match w.fault with
  | some _ => w
  | none => w.sink.write (Utf8.encode "\n")

end Sink

end CoilProbe
