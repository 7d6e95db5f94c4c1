import CoilProbe.Journal.Event
import CoilProbe.Pattern.Search

/-!
# Filtering the journal

A filter has directives and perhaps a pattern. A directive covers the components whose names begin
with its target, or all of them, and says which levels it lets through. Of the directives that cover
a component the one with the longest target decides, and of equally long ones the last. An event
whose level is let through must also match the pattern somewhere in its message.
-/

namespace CoilProbe

/-- The least important level that is let through; nothing is if it is missing. -/
abbrev Threshold := Option Level

/-- Whether a threshold lets a level through. -/
def Threshold.admits (t : Threshold) (l : Level) : Bool :=
  match t with
  | none => false
  | some least => l.rank ≤ least.rank

/-- A directive. -/
structure Directive where
  /-- How the names of the components begin that it covers; it covers all if this is missing. -/
  target : Option (List Char)
  /-- What it lets through. -/
  threshold : Threshold
deriving DecidableEq

namespace Directive

/-- Whether a directive covers a component. -/
def covers (d : Directive) (name : List Char) : Bool :=
  match d.target with
  | none => true
  | some target => target.isPrefixOf name

/-- The length of the target. -/
def reach (d : Directive) : Nat := (d.target.getD []).length

/-- Some directives with one more, which takes the place of one with the same target. -/
def put (d : Directive) : List Directive → List Directive
  | [] => [d]
  | e :: rest => if e.target = d.target then d :: rest else e :: put d rest

/-- The better of two directives that cover a component, of which the second comes later. -/
def better (best : Option Directive) (d : Directive) : Option Directive :=
  match best with
  | none => some d
  | some b => if b.reach ≤ d.reach then some d else some b

/-- The directive among some that decides about a component. -/
def deciding (directives : List Directive) (name : List Char) : Option Directive :=
  (directives.filter (·.covers name)).foldl better none

end Directive

/-- A filter. -/
structure Filter where
  /-- Its directives. -/
  directives : List Directive
  /-- The pattern that messages must match, if there is one. -/
  pattern : Option Pattern.Matcher := none
deriving DecidableEq

namespace Filter

/-- Whether a filter lets a level of a component through. -/
def admitsLevel (f : Filter) (c : Component) (l : Level) : Bool :=
  match Directive.deciding f.directives c.name.toList with
  | none => false
  | some d => d.threshold.admits l

/-- Whether a filter lets a message through. -/
def admitsMessage (f : Filter) (message : String) : Bool :=
  match f.pattern with
  | none => true
  | some pattern => pattern.found message.toList

/-- Whether a filter lets an event through. -/
def admits (f : Filter) (e : Event) : Bool :=
  f.admitsLevel e.component e.level && f.admitsMessage e.message

/-- A filter with a threshold for everything, directives that add to it or replace it, and a
pattern. -/
def ofDirectives (base : Level) (directives : List Directive) (pattern : Option Pattern.Matcher) :
    Filter :=
  ⟨directives.foldl (fun all d => d.put all) [⟨none, some base⟩], pattern⟩

end Filter

end CoilProbe
