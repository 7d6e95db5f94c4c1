import CoilProbe.Pattern.ByteRow
import CoilProbe.Pattern.Footprint
import Std.Data.HashMap

/-!
# States for the characters of a set

A character that is not of ASCII has several bytes, and takes several states. Equal states are laid
out once, as far as they are remembered: a `Memory` has a fixed number of places, and what comes to
a place that is taken replaces what was there.
-/

namespace CoilProbe.Pattern

/-- What tells states apart: the numbers that their arrows are made of. -/
abbrev StateKey := List Nat

/-- The hash of a key: FNV-1a with 64 bits, taking a number at a time. -/
def StateKey.hash (key : StateKey) : Nat :=
  (key.foldl (fun h n => (h ^^^ n.toUInt64) * 1099511628211) (14695981039346656037 : UInt64)).toNat

/-- The states that are remembered. -/
structure Memory where
  /-- How many places there are. -/
  places : Nat
  /-- For some places the key of a state and its name. -/
  kept : Std.HashMap Nat (StateKey × Nat)

namespace Memory

/-- A memory in which there is nothing yet. -/
def fresh (places : Nat) : Memory := ⟨places, ∅⟩

/-- The place of a key. -/
def placeOf (key : StateKey) (m : Memory) : Nat := key.hash % m.places

/-- The name of the state with a key, if it is remembered. -/
def find? (key : StateKey) (m : Memory) : Option Nat :=
  match m.kept[m.placeOf key]? with
  | some (other, name) => if other = key then some name else none
  | none => none

/-- Remembers a state. -/
def keep (key : StateKey) (name : Nat) (m : Memory) : Memory :=
  { m with kept := m.kept.insert (m.placeOf key) (key, name) }

end Memory

/-- An automaton with the states that are remembered. -/
structure Draft where
  /-- What is laid out. -/
  laid : Footprint
  /-- What is remembered of it. -/
  memory : Memory

/-- The name of the state with a key, which is laid out unless it is remembered. -/
def Draft.state (key : StateKey) (lay : Footprint → Footprint) (d : Draft) : Nat × Draft :=
  match d.memory.find? key with
  | some name => (name, d)
  | none => (d.laid.states, ⟨lay d.laid, d.memory.keep key d.laid.states⟩)

/-! ## Forward -/

/-- An arrow to a state, for the bytes of a range. -/
structure Arrow where
  /-- The bytes. -/
  bytes : ByteRange
  /-- The name of the state. -/
  target : Nat
deriving DecidableEq

/-- A state that is still open: another arrow may come to it, and where its last arrow leads is not
known before the states behind it are closed. -/
structure OpenState where
  /-- The arrows before the last one. -/
  arrows : List Arrow
  /-- The bytes of the last one. -/
  last : ByteRange
deriving DecidableEq

/-- The name of a state with the given arrows. -/
def Draft.close (arrows : List Arrow) (d : Draft) : Nat × Draft :=
  d.state (arrows.flatMap fun a => [a.bytes.first, a.bytes.last, a.target])
    (Footprint.table arrows.length)

/-- Open states that lead one to the other and to the state `final` are closed. The name of the
first is given, which is `final` if there is none. -/
def Draft.closeAll (final : Nat) : List OpenState → Draft → Nat × Draft
  | [], d => (final, d)
  | s :: behind, d =>
    let (target, d) := Draft.closeAll final behind d
    d.close (s.arrows ++ [⟨s.last, target⟩])

/-- The open states after one more row. States for the ranges that it shares with the row before
stay open. The first state that differs has one more arrow, and those behind it are closed. -/
def Draft.addRow (final : Nat) : List OpenState → ByteRow → Draft → List OpenState × Draft
  | s :: behind, r :: row, d =>
    if s.last = r then
      let (states, d) := Draft.addRow final behind row d
      (s :: states, d)
    else
      let (target, d) := Draft.closeAll final behind d
      (⟨s.arrows ++ [⟨s.last, target⟩], r⟩ :: row.map (⟨[], ·⟩), d)
  | _, row, d => (row.map (⟨[], ·⟩), d)

namespace Footprint

/-- Lays out the states for the rows of a set, of which those with a common beginning follow each
other. The state where the characters end comes first. -/
def rowsForward (rows : List ByteRow) (f : Footprint) : Footprint :=
  let final := f.states
  let (states, d) := rows.foldl (fun (states, d) row => d.addRow final states row)
    (([] : List OpenState), (⟨f.plain 1, .fresh 10000⟩ : Draft))
  (Draft.closeAll final states d).2.laid

/-! ## Backward -/

/-- Lays out the states for the rows of a set when the last byte comes first: a fork with an arrow
for each row, the state where the characters end, and for each row the states from there to its last
byte. -/
def rowsBackward (rows : List ByteRow) (f : Footprint) : Footprint :=
  let f := f.fork rows.length
  let final := f.states
  let d := rows.foldl (fun d row =>
    (row.foldl (fun (target, d) r => d.state [target, r.first, r.last] (Footprint.plain 1))
      (final, d)).2) (⟨f.plain 1, .fresh 1000⟩ : Draft)
  d.laid

/-- Lays out the states for one character of a set, or for one byte. -/
def chars (d : Direction) (bytes : Bool) (set : CharSet) (f : Footprint) : Footprint :=
  if bytes || List.all set (·.last < 0x80) then (f.plain 1).table (List.length set)
  else match d with
    | .forward => f.rowsForward set.rows
    | .backward => f.rowsBackward set.rows

end Footprint

end CoilProbe.Pattern
