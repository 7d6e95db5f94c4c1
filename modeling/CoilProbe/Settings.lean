/-!
# Settings of a probe

Which coil of which server to read, and how long to wait for it.
-/

namespace CoilProbe

/-- Which coil of which server to read. -/
structure Settings where
  /-- Name or address of the server's host. -/
  host : String
  /-- Port of the server. -/
  port : UInt16 := 502
  /-- Unit addressed on the server. -/
  unit : UInt8 := 1
  /-- Address of the coil. -/
  address : UInt16 := 103
  /-- How many milliseconds to wait in each of the lookup, a connection attempt and a read. -/
  timeout : UInt64 := 3000
deriving DecidableEq

/-- The settings that a host and perhaps a timeout leave open have their usual values. -/
def Settings.ofHost (host : String) (timeout : Option UInt64) : Settings :=
  let s : Settings := { host }
  { s with timeout := timeout.getD s.timeout }

/-- The server as it is named to the user: `host:port`. -/
def Settings.target (s : Settings) : String := s.host ++ ":" ++ toString s.port.toNat

/-- What the user is told when no connection can be made. -/
def Settings.noConnection (s : Settings) : String := "No connct to " ++ s.target

end CoilProbe
