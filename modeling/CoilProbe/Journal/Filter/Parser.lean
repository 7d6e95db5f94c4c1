import CoilProbe.Journal.Filter
import CoilProbe.Pattern.Refusal

/-!
# Reading filters

The text of a filter is a list of directives, separated by commas, and perhaps a slash with a
pattern after it. A part that cannot be read is left out, and something is said about it; a text
with more than one slash is left out as a whole.
-/

namespace CoilProbe

/-- The threshold of a level's name, in either case, or of `off`. -/
def Threshold.ofName? (name : List Char) : Option Threshold :=
  match String.ofList (name.map Char.toLower) with
  | "off" => some none
  | "error" => some (some .error)
  | "warn" => some (some .warn)
  | "info" => some (some .info)
  | "debug" => some (some .debug)
  | "trace" => some (some .trace)
  | _ => none

/-- What cannot be read in the text of a filter. -/
inductive FilterFault where
  /-- The whole text, since it has more than one slash. -/
  | slashes (text : List Char)
  /-- A directive. -/
  | directive (text : List Char)
  /-- The pattern. -/
  | pattern (text : List Char) (refusal : Pattern.Refusal)
deriving DecidableEq

/-- What cannot be read, in words. -/
def FilterFault.message : FilterFault → String
  | .slashes text => "invalid logging spec '" ++ String.ofList text ++ "' (too many '/'s)"
  | .directive text => "invalid logging spec '" ++ String.ofList text ++ "'"
  | .pattern text refusal => "invalid regex filter - " ++ refusal.text text

/-- The warning that something is left out. -/
def FilterFault.warning (f : FilterFault) : String := "warning: " ++ f.message ++ ", ignoring it\n"

/-- The directive that a text is: a level, a target, or a target with a level after `=`. A target
alone lets everything through. If the text is none, what is wrong with it is given. -/
def Directive.parse (text : List Char) : Except (List Char) Directive :=
  match partsAt '=' text with
  | [only] =>
    match Threshold.ofName? only with
    | some threshold => .ok ⟨none, threshold⟩
    | none => .ok ⟨some only, some .trace⟩
  | [target, level] =>
    if trim level = [] then .ok ⟨some target, some .trace⟩
    else match Threshold.ofName? (trim level) with
      | some threshold => .ok ⟨some target, threshold⟩
      | none => .error (trim level)
  | _ => .error text

/-- What the text of a filter says. -/
structure FilterText where
  /-- The directives. -/
  directives : List Directive := []
  /-- The pattern, if there is one. -/
  pattern : Option Pattern.Matcher := none
  /-- What could not be read. -/
  faults : List FilterFault := []

namespace FilterText

/-- The same with a directive before all others, or with the fault of what is none. -/
def add (t : FilterText) : Except (List Char) Directive → FilterText
  | .ok d => { t with directives := d :: t.directives }
  | .error text => { t with faults := .directive text :: t.faults }

/-- The same with a pattern, or with the fault of what is none behind all others. -/
def withPattern (text : List Char) (t : FilterText) : FilterText :=
  match Pattern.Matcher.ofPattern text with
  | .ok matcher => { t with pattern := some matcher }
  | .error refusal => { t with faults := t.faults ++ [.pattern text refusal] }

/-- What directives separated by commas say. -/
def ofDirectives (text : List Char) : FilterText :=
  (((partsAt ',' text).map trim).filter fun part => !part.isEmpty).foldr
    (fun part t => t.add (Directive.parse part)) {}

/-- What a text says. -/
def parse (text : List Char) : FilterText :=
  match partsAt '/' text with
  | [directives] => ofDirectives directives
  | [directives, pattern] => (ofDirectives directives).withPattern pattern
  | _ => { faults := [.slashes text] }

/-- The filter that a text makes, with a threshold for everything that it says nothing about. -/
def filter (base : Level) (t : FilterText) : Filter := .ofDirectives base t.directives t.pattern

end FilterText

end CoilProbe
