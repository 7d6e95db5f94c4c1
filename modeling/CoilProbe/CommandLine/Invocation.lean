import CoilProbe.CommandLine.Usage
import CoilProbe.Settings

/-!
# Reading a command line

Arguments are read from left to right. An option's value may stand in the same argument or in the
next one; a host, or a value that stands in an argument of its own, is looked at no sooner than the
argument after it, so what is wrong with it may be preceded by what is wrong with that one. After
`--` every argument is a host.
-/

namespace CoilProbe

/-- What a command line asks for. -/
structure Invocation where
  /-- The settings of the probe. -/
  settings : Settings
  /-- Whether more of the journal is shown. -/
  verbose : Bool
deriving DecidableEq

/-- An argument that has been seen and not been looked at. -/
inductive Pending where
  /-- The timeout option, whose value has not come yet. -/
  | option
  /-- The timeout option and its value. -/
  | timeout (value : Argument)
  /-- The host. -/
  | host (value : Argument)
deriving DecidableEq

/-- How far a command line has been read. -/
structure Reading where
  /-- What has not been looked at. -/
  pending : Option Pending := none
  /-- Whether there was a `--`. -/
  escaped : Bool := false
  /-- The host. -/
  host : Option String := none
  /-- The timeout. -/
  timeout : Option UInt64 := none
  /-- Whether more of the journal is shown. -/
  verbose : Bool := false
deriving DecidableEq

/-- The result of reading on. -/
abbrev Parsing := Except Stop

/-- Stops because of a misuse. -/
def refuse {α : Type} (m : Misuse) : Parsing α := .error (.misuse m)

namespace Reading

/-- Sets the timeout to a value, which may be given once. -/
def setTimeout (value : Argument) (r : Reading) : Parsing Reading :=
  if r.timeout.isSome then refuse (.repeated .timeout)
  else match value.chars? with
    | none => refuse .notUtf8
    | some cs =>
      match readNumber cs with
      | .ok n => .ok { r with timeout := some n }
      | .error fault => refuse (.badTimeout (String.ofList cs) fault)

/-- Looks at what is pending. -/
def settle (r : Reading) : Parsing Reading :=
  match r.pending with
  | none => .ok r
  | some .option => refuse .valueMissing
  | some (.timeout value) => { r with pending := none }.setTimeout value
  | some (.host value) =>
    match value.chars? with
    | none => refuse .notUtf8
    | some cs => .ok { r with pending := none, host := some (String.ofList cs) }

/-- Whether a host has been given. -/
def hostGiven (r : Reading) : Bool :=
  match r.pending with
  | some (.host _) => true
  | _ => r.host.isSome

/-- Takes an argument for the host. -/
def takeHost (a : Argument) (r : Reading) : Parsing Reading :=
  if r.hostGiven then refuse (.unexpected a.shown)
  else do return { ← r.settle with pending := some (.host a) }

/-- Carries out an option that has no value in its own argument; the timeout option waits for the
next one. -/
def carryOut (f : Flag) (r : Reading) : Parsing Reading := do
  let r ← r.settle
  match f with
  | .help => .error .help
  | .version => .error .version
  | .verbose => if r.verbose then refuse (.repeated .verbose) else return { r with verbose := true }
  | .timeout => return { r with pending := some .option }

/-- Takes the value of the timeout option that stands in the same argument. -/
def takeTimeout (value : Argument) (r : Reading) : Parsing Reading := do
  (← r.settle).setTimeout value

/-- Reads a long option, its name and the value after `=` if there is one. -/
def takeLong (d : Dialect) (name : Argument) (value : Option Argument) (r : Reading) :
    Parsing Reading :=
  match d.flags.find? (fun f => Argument.ofString f.long = name), value with
  | none, _ => refuse (.unexpected ("--" ++ name.shown))
  | some f, none => r.carryOut f
  | some .timeout, some v => r.takeTimeout v
  | some f, some v => refuse (.unexpectedValue v.shown f)

/-- Reads a row of short options. The timeout option takes what is left of the row for its value,
if something is left. -/
def takeShort (d : Dialect) : Argument → Reading → Parsing Reading
  | [], r => .ok r
  | none :: rest, _ => refuse (.unexpected ("-" ++ Argument.shown (none :: rest)))
  | some c :: rest, r =>
    match d.flags.find? (fun f => f.short = c) with
    | none => refuse (.unexpected ("-" ++ String.singleton c))
    | some .timeout =>
      match rest with
      | [] => r.carryOut .timeout
      | some '=' :: value => r.takeTimeout value
      | value => r.takeTimeout value
    | some f => do takeShort d rest (← r.carryOut f)

/-- Reads an argument. -/
def take (d : Dialect) (a : Argument) (r : Reading) : Parsing Reading :=
  if r.escaped then r.takeHost a
  else match a with
    | [some '-', some '-'] => .ok { r with escaped := true }
    | some '-' :: some '-' :: option =>
      let (name, value) := Argument.splitValue option
      r.takeLong d name value
    | some '-' :: g :: row => takeShort d (g :: row) r
    | _ =>
      if r.pending = some .option then .ok { r with pending := some (.timeout a) }
      else r.takeHost a

/-- Reads arguments. -/
def takeAll (d : Dialect) : List Argument → Reading → Parsing Reading
  | [], r => .ok r
  | a :: rest, r => do takeAll d rest (← r.take d a)

end Reading

/-- What the arguments of a command line ask for. -/
def Invocation.parse (d : Dialect) (arguments : List Argument) : Parsing Invocation := do
  let r ← Reading.takeAll d arguments {}
  let r ← r.settle
  match r.host with
  | none => refuse .hostMissing
  | some host =>
    return ⟨Settings.ofHost host r.timeout, r.verbose⟩

end CoilProbe
