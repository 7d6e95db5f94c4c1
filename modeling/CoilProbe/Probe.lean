import CoilProbe.Session
import CoilProbe.Sink

/-!
# Probing a coil

A probe makes a connection, reads the coil of its settings, and writes one line: the value, or that
there is no connection. Having no connection is an outcome, not a failure; a read that fails writes
nothing and is a failure, and so is an output that cannot be written.
-/

namespace CoilProbe

/-- How a probe ends that does not fail. -/
inductive Outcome where
  /-- The coil was read. -/
  | value (value : Bool)
  /-- There is no connection. -/
  | notConnected
deriving DecidableEq

/-- The line written for a coil. -/
def coilText (value : Bool) : String := if value then "True" else "False"

/-- The exit status for the result of a probe: zero unless it failed. -/
def exitStatus {ε : Type} : Except ε Outcome → UInt8
  | .ok _ => 0
  | .error _ => 1

/-- The text of an outcome. -/
def Outcome.text : Outcome → String
  | .value v => "Value(" ++ flagText v ++ ")"
  | .notConnected => "NotConnected"

/-- The text of the result of a probe whose failures are plain words. -/
def resultText : Except String Outcome → String
  | .ok outcome => "Ok(" ++ outcome.text ++ ")"
  | .error words => "Err(\"" ++ words ++ "\")"

/-- A probe that has been made. -/
structure Probe where
  /-- How it ended. -/
  result : Except Failure Outcome
  /-- What it wrote into the journal. -/
  log : List Event
  /-- The output after it. -/
  sink : Sink
  /-- The session after it. -/
  session : Session

/-- The result of a probe that ends by writing a line. -/
def Written.outcome (w : Written) (outcome : Outcome) : Except Failure Outcome :=
  match w.fault with
  | none => .ok outcome
  | some fault => .error (.output fault)

/-- What a probe has come to when it goes on to read. -/
structure Opening where
  /-- Why the output cannot be written, if it had to be written and cannot. -/
  fault : Option IoFault
  /-- What was written into the journal. -/
  log : List Event
  /-- The output after it. -/
  sink : Sink
  /-- The session after it. -/
  session : Session

/-- Makes a connection unless one is held, and writes a line if none can be made. -/
def Session.prepare (sink : Sink) (s : Session) : Opening :=
  if s.isOpen then ⟨none, [], sink, s⟩
  else
    let opened := s.connect
    match opened.result with
    | .ok () => ⟨none, opened.log, sink, opened.session⟩
    | .error failure =>
      let written := sink.writeLine s.settings.noConnection
      ⟨written.fault, opened.log ++ [.noConnection s.settings.target failure], written.sink,
        opened.session⟩

/-- Reads the coil of its settings over the connection that is held, and writes it. -/
def Session.readOut (sink : Sink) (s : Session) : Probe :=
  let read := s.read s.settings.address
  match read.result with
  | .error failure => ⟨.error failure, read.log, sink, read.session⟩
  | .ok value =>
    let written := sink.writeLine (coilText value)
    ⟨written.outcome (.value value),
      read.log ++ [.coil s.settings.address s.settings.target value], written.sink, read.session⟩

/-- Probes the coil of some settings. -/
def probe (settings : Settings) (network : Network) (sink : Sink) : Probe :=
  let opening := (Session.start settings network).prepare sink
  match opening.fault with
  | some fault => ⟨.error (.output fault), opening.log, opening.sink, opening.session⟩
  | none =>
    if opening.session.isOpen then
      let reading := opening.session.readOut opening.sink
      { reading with log := opening.log ++ reading.log }
    else ⟨.ok .notConnected, opening.log, opening.sink, opening.session⟩

/-- The report of a probe that failed. -/
def Probe.report? (settings : Settings) (p : Probe) : Option String :=
  match p.result with
  | .ok _ => none
  | .error failure => some (failure.report settings.address settings.target)

/-- The requests that the servers took. -/
def Probe.requests (p : Probe) : List (List Bytes) := p.session.requests

end CoilProbe
