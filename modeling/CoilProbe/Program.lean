import CoilProbe.CommandLine.Invocation
import CoilProbe.Journal.Filter.Parser
import CoilProbe.Probe

/-!
# The program

The program reads its command line, probes the coil, prints the outcome to its output, and prints
the events that its filter lets through and the report of a failure to its error output.
-/

namespace CoilProbe

/-- How the program ends. -/
structure Exit where
  /-- What it printed to its output. -/
  output : Bytes
  /-- The lines that it printed to its error output on the way. -/
  notes : List String
  /-- The last thing that it printed to its error output, if it ended badly. -/
  complaint : Option String
  /-- Its exit status. -/
  status : UInt8
  /-- The requests that the servers took. -/
  requests : List (List Bytes)
deriving DecidableEq

/-- What the program printed to its error output. -/
def Exit.errors (e : Exit) : String := String.join e.notes ++ e.complaint.getD ""

/-- A message of several lines with all lines but the first one indented. -/
def indented (message : String) : String :=
  String.ofList (message.toList.flatMap fun c => if c = '\n' then "\n    ".toList else [c])

/-- The name of a level, filled up with blanks to the length of the longest ones. -/
def Level.column (l : Level) : String := String.ofList (l.name.toList.rightpad 5 ' ')

/-- The line printed for an event at a time, without control sequences. -/
def Event.line (time : String) (e : Event) : String :=
  withoutControls .pauses
    ("[" ++ time ++ " " ++ e.level.column ++ " " ++ e.component.name ++ "] " ++ indented e.message
      ++ "\n")

/-- The level that is shown where the environment says nothing about it. -/
def baseLevel (verbose : Bool) : Level := if verbose then .debug else .warn

/-- Carries out an invocation, given the filter that the environment asks for. -/
def Invocation.carryOut (time filterText : String) (network : Network) (i : Invocation) : Exit :=
  let asked := FilterText.parse filterText.toList
  let filter := asked.filter (baseLevel i.verbose)
  let p := probe i.settings network {}
  { output := p.sink.taken
    notes := asked.faults.map FilterFault.warning
      ++ (p.log.filter filter.admits).map (Event.line time)
    complaint := (p.report? i.settings).map (· ++ "\n")
    status := exitStatus p.result
    requests := p.requests }

/-- An exit before any network is touched. -/
def Exit.early (network : Network) (output : String) (complaint : Option String) (status : UInt8) :
    Exit where
  output := Utf8.encode output
  notes := []
  complaint := complaint
  status := status
  requests := Roster.requests (.ofServers network.servers)

/-- Runs the program with some arguments. The events in its error output have the given time. -/
def program (time filterText : String) (network : Network) (arguments : List Argument) : Exit :=
  match Invocation.parse .program arguments with
  | .ok i => i.carryOut time filterText network
  | .error .help => .early network Dialect.program.help none 0
  | .error .version => .early network versionText none 0
  | .error (.misuse m) => .early network "" (some (m.message .pauses)) 2

end CoilProbe
