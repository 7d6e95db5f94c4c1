import CoilProbe.Pattern.FewWords
import CoilProbe.Pattern.Meaning
import CoilProbe.Pattern.Parser
import CoilProbe.Pattern.Size

/-!
# Patterns that can be used

A text is a pattern if it can be read and has a meaning. One that is too large, or asks for words of
other letters than those of ASCII, is refused all the same.
-/

namespace CoilProbe.Pattern

/-- Why a text cannot be used as a pattern. -/
inductive Refusal where
  /-- Something is wrong with it. -/
  | malformed (fault : Fault)
  /-- It is too large. -/
  | tooLarge
  /-- It asks for words whose letters are not known. -/
  | unknownWords
deriving DecidableEq

/-- Why a text cannot be used as a pattern, in words. -/
def Refusal.text (pattern : List Char) : Refusal → String
  | .malformed fault => fault.text pattern
  | .tooLarge => "Compiled regex exceeds size limit of " ++ toString Footprint.limit ++ " bytes."
  | .unknownWords => "error building NFA"

/-- Why a matcher cannot be used, if it cannot. The automaton that goes forward comes first. -/
def Matcher.refusal? (m : Matcher) : Option Refusal :=
  if m.isFewWords then none
  else if (m.footprint .forward).tooLarge then some .tooLarge
  else if m.asksForWords then some .unknownWords
  else if (m.footprint .backward).tooLarge then some .tooLarge
  else none

/-- The matcher of the pattern that a text is. -/
def Matcher.ofPattern (pattern : List Char) : Except Refusal Matcher :=
  match Tree.parse pattern with
  | .error fault => .error (.malformed fault)
  | .ok tree =>
    match tree.meaning {} with
    | .error fault => .error (.malformed fault)
    | .ok (matcher, _) =>
      match matcher.refusal? with
      | some refusal => .error refusal
      | none => .ok matcher

end CoilProbe.Pattern
