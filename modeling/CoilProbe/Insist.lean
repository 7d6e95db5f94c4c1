/-!
# Results that must be there

A program that cannot go on without a result stops with a message made from the error, and a
calculation stops with the first error of its parts.
-/

namespace CoilProbe

/-- A program that stopped, and its last message. -/
structure Abort where
  /-- The message. -/
  message : String
deriving DecidableEq

/-- The value of a result; without one the program stops with a message made from the error. -/
def insist {ε α : Type} (message : ε → String) : Except ε α → Except Abort α
  | .ok value => .ok value
  | .error e => .error ⟨message e⟩

/-- A calculation that goes on with a result succeeds if both of its parts do. -/
theorem bind_eq_ok {ε α β : Type} {x : Except ε α} {f : α → Except ε β} {b : β} :
    x >>= f = .ok b ↔ ∃ a, x = .ok a ∧ f a = .ok b := by
  cases x with
  | error e => simp [bind, Except.bind]
  | ok a => simp [bind, Except.bind]

/-- A message that says what failed and, in brackets, why. -/
def becauseOf (what why : String) : String := what ++ " [" ++ why ++ "]"

end CoilProbe
