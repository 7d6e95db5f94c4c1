import CoilProbe.Net.Script

/-!
# Connection attempts

A `Roster` keeps account of the servers of a network: which of them have had their connection
attempt, and what those recorded whose connection is over. An attempt goes to the first server at
its address that has had none; where there is none left, nobody answers.
-/

namespace CoilProbe

/-- A server and what has become of it. -/
structure Slot where
  /-- The server. -/
  server : Server
  /-- Whether it has had its connection attempt. -/
  used : Bool := false
  /-- The requests it took, known once its connection is over. -/
  requests : List Bytes := []
deriving DecidableEq

/-- Whether a server still waits for an attempt at an address. -/
def Slot.awaits (address : SocketAddress) (s : Slot) : Bool :=
  !s.used && s.server.address == address

/-- Whether a server accepts the attempt that it gets. -/
def Slot.accepting (s : Slot) : Bool :=
  match s.server.admission with
  | .accept _ => true
  | .refuse _ | .hang => false

/-- The servers of a network in order. -/
abbrev Roster := List Slot

/-- What comes of a connection attempt. -/
inductive Attempt where
  /-- The server at a place of the roster accepts. -/
  | accepted (place : Nat) (service : Service)
  /-- The attempt fails. -/
  | failed (fault : IoFault)
  /-- The attempt never ends. -/
  | hung
deriving DecidableEq

/-- An attempt that went to a server at a given place. -/
def Attempt.ofAdmission (place : Nat) : Admission → Attempt
  | .accept service => .accepted place service
  | .refuse fault => .failed fault
  | .hang => .hung

namespace Roster

/-- The servers of a network before the first attempt. -/
def ofServers (servers : List Server) : Roster := servers.map fun s => { server := s }

/-- An attempt at an address, where the first slot has the given place. -/
def attemptFrom (address : SocketAddress) : (place : Nat) → Roster → Attempt × Roster
  | _, [] => (.failed .connectionRefused, [])
  | place, s :: rest =>
    if s.awaits address then
      (.ofAdmission place s.server.admission, { s with used := true } :: rest)
    else
      let (attempt, rest) := attemptFrom address (place + 1) rest
      (attempt, s :: rest)

/-- An attempt at an address. -/
def attempt (address : SocketAddress) (r : Roster) : Attempt × Roster := attemptFrom address 0 r

/-- Notes the requests that the server at a place took. -/
def note (place : Nat) (requests : List Bytes) (r : Roster) : Roster :=
  r.modify place fun s => { s with requests := requests }

/-- The requests taken, a list for each accepting server. -/
def requests (r : Roster) : List (List Bytes) := (r.filter Slot.accepting).map Slot.requests

end Roster

end CoilProbe
