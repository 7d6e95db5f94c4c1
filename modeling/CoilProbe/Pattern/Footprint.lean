/-!
# How much an automaton takes

The automaton of a pattern is laid out state by state. States have arrows to other states. Those of
a fork, of which any may be taken, and those of a table, each of which is for some bytes, are kept
in lists, which take room beside the states. Only the number of states and the room of the lists are
counted: they say how much memory the automaton takes, and the number of states so far names the
state that comes next.
-/

namespace CoilProbe.Pattern

/-- How much of an automaton is laid out. -/
structure Footprint where
  /-- The number of states. -/
  states : Nat
  /-- The bytes that the lists of arrows take. -/
  lists : Nat
deriving DecidableEq

namespace Footprint

/-- Nothing. -/
def nothing : Footprint := ⟨0, 0⟩

/-- The memory that is taken, in bytes. -/
def bytes (f : Footprint) : Nat := 32 * f.states + f.lists

/-- The most memory that the automaton of a pattern may take, in bytes. -/
def limit : Nat := 10485760

/-- Whether too much memory is taken. -/
def tooLarge (f : Footprint) : Bool := limit < f.bytes

/-- Some more states without a list. -/
def plain (count : Nat) (f : Footprint) : Footprint := { f with states := f.states + count }

/-- One more state that is a fork. -/
def fork (arrows : Nat) (f : Footprint) : Footprint := ⟨f.states + 1, f.lists + 4 * arrows⟩

/-- One more state that is a table. -/
def table (arrows : Nat) (f : Footprint) : Footprint := ⟨f.states + 1, f.lists + 8 * arrows⟩

/-- The same laid out several times. Once there is too much it does not matter how much more there
would be. -/
def copies (lay : Footprint → Footprint) : Nat → Footprint → Footprint
  | 0, f => f
  | n + 1, f => if f.tooLarge then f else copies lay n (lay f)

end Footprint

/-- In which direction an automaton goes through a text. -/
inductive Direction where
  | forward
  | backward
deriving DecidableEq

end CoilProbe.Pattern
