import CoilProbe.Journal.Event
import CoilProbe.Modbus.Link
import CoilProbe.Net.Roster
import CoilProbe.Settings

/-!
# Sessions

A session talks to one server on behalf of its settings. It holds at most one connection, and makes
one by trying the addresses of the host in order. A connection made while another is held takes its
place; an attempt that fails leaves the one that is held alone. The servers of connections that are
held no more go on with what they were asked for, in turns, whenever the client waits.
-/

namespace CoilProbe

/-- A connection and the place of its server in the roster. -/
structure Holding where
  /-- The place of the server. -/
  place : Nat
  /-- The connection. -/
  link : Link
deriving DecidableEq

/-- The connection after turns of its server that the client did not wait for on it. -/
def Holding.afterTurns (turns : Nat) (h : Holding) : Holding :=
  { h with link := h.link.afterTurns turns }

/-- A session. -/
structure Session where
  /-- Which server it talks to. -/
  settings : Settings
  /-- The host names that are known. -/
  names : NameTable
  /-- What has become of the servers. -/
  roster : Roster
  /-- The connection that it holds. -/
  held : Option Holding
  /-- The connections that it has held before, the last one first. -/
  past : List Holding := []

/-- What an operation of a session comes to. -/
structure Performed (α : Type) where
  /-- Its result. -/
  result : Except Failure α
  /-- What it wrote into the journal. -/
  log : List Event
  /-- The session after it. -/
  session : Session

/-- A search for a server that accepts. -/
structure Search where
  /-- The place of the server found and what it does, or why none was found. -/
  result : Except Failure (Nat × Service)
  /-- What the search wrote into the journal. -/
  log : List Event
  /-- What has become of the servers. -/
  roster : Roster

/-- Tries addresses in order until one accepts. If none does, the last attempt says why; `failure`
is why there is no connection before the first attempt. -/
def Roster.search (s : Settings) (failure : Failure) : List SocketAddress → Roster → Search
  | [], r => ⟨.error failure, [], r⟩
  | a :: rest, r =>
    match r.attempt a with
    | (.accepted place service, r) =>
      ⟨.ok (place, service), [.connecting a s.unit, .connected a], r⟩
    | (.failed fault, r) =>
      let later := search s (.connect a fault) rest r
      { later with log := .connecting a s.unit :: .connectFailed a fault :: later.log }
    | (.hung, r) =>
      let later := search s (.timedOut s.timeout) rest r
      { later with log := .connecting a s.unit :: .connectTimedOut a s.timeout :: later.log }

namespace Session

/-- A session that holds no connection yet. -/
def start (settings : Settings) (network : Network) : Session :=
  { settings := settings
    names := network.names
    roster := .ofServers network.servers
    held := none }

/-- Whether a session holds a connection. -/
def isOpen (s : Session) : Bool := s.held.isSome

/-- A session that lets go of its connection. -/
def release (s : Session) : Session := { s with held := none, past := s.held.toList ++ s.past }

/-- A session that holds a new connection, and no other. -/
def hold (place : Nat) (service : Service) (s : Session) : Session :=
  { s.release with held := some ⟨place, .connect s.settings.unit service⟩ }

/-- The addresses at which a host with the given addresses is tried. -/
def targets (s : Settings) (ips : List IPAddress) : List SocketAddress :=
  ips.map (·.withPort s.port)

/-- Makes a connection. -/
def connect (s : Session) : Performed Unit :=
  let host := s.settings.host
  match s.names.resolve host s.settings.timeout.toNat with
  | .late => ⟨.error (.timedOut s.settings.timeout), [], s⟩
  | .failed fault => ⟨.error (.lookup host fault), [], s⟩
  | .found ips =>
    let search := s.roster.search s.settings (.noAddress host) (targets s.settings ips)
    let s := { s with roster := search.roster }
    match search.result with
    | .ok (place, service) => ⟨.ok (), search.log, s.hold place service⟩
    | .error failure => ⟨.error failure, search.log, s⟩

/-- The coil that an answer holds; a timeout of the session explains silence. -/
def coilOf (timeout : UInt64) : Answer → Except Failure Bool
  | .coils (value :: _) => .ok value
  | .coils [] => .error .emptyResponse
  | .exception code => .error (.exception code)
  | .fault fault => .error (.transport fault)
  | .silence => .error (.timedOut timeout)

/-- Reads the coil at an address over the connection that is held. -/
def read (address : UInt16) (s : Session) : Performed Bool :=
  match s.held with
  | none => ⟨.error .notConnected, [], s⟩
  | some h =>
    let exchange := h.link.exchange address
    ⟨coilOf s.settings.timeout exchange.answer, [.reading address],
      { s with
        held := some { h with link := exchange.link }
        past := s.past.map (·.afterTurns exchange.turns) }⟩

/-- The servers with the requests that they took by the time a session is over. -/
def accounts (s : Session) : Roster :=
  s.release.past.foldl (fun r h => r.note h.place h.link.requests) s.roster

/-- The requests taken by the time a session is over, a list for each accepting server. -/
def requests (s : Session) : List (List Bytes) := s.accounts.requests

end Session

/-- A step of a session. -/
inductive Step where
  /-- Make a connection. -/
  | connect
  /-- Say whether a connection is held. -/
  | isOpen
  /-- Show the settings. -/
  | settings
  /-- Read the coil at an address. -/
  | read (address : UInt16)
deriving DecidableEq

/-- What a step yields. -/
inductive StepValue where
  /-- Nothing but success. -/
  | done
  /-- A yes or no. -/
  | flag (value : Bool)
  /-- Settings. -/
  | settings (settings : Settings)
  /-- A coil. -/
  | coil (value : Bool)
deriving DecidableEq

/-- What is known after a step. -/
structure StepReport where
  /-- Its result. -/
  result : Except Failure StepValue
  /-- Whether the session holds a connection after it. -/
  isOpen : Bool
  /-- What it wrote into the journal. -/
  log : List Event

namespace Session

/-- Carries out a step. -/
def perform (s : Session) : Step → Performed StepValue
  | .connect => let p := s.connect; ⟨p.result.map fun _ => .done, p.log, p.session⟩
  | .isOpen => ⟨.ok (.flag s.isOpen), [], s⟩
  | .settings => ⟨.ok (.settings s.settings), [], s⟩
  | .read address => let p := s.read address; ⟨p.result.map .coil, p.log, p.session⟩

/-- The session after some steps. -/
def after (s : Session) (steps : List Step) : Session :=
  steps.foldl (fun s step => (s.perform step).session) s

/-- What is known after each of some steps. -/
def reports (s : Session) : List Step → List StepReport
  | [] => []
  | step :: steps =>
    let p := s.perform step
    ⟨p.result, p.session.isOpen, p.log⟩ :: p.session.reports steps

end Session

end CoilProbe
