import CoilProbe.Net.Address.Parser
import CoilProbe.Net.Fault

/-!
# Scripted networks

A network is a table of host names and a list of servers. Each server stands for one connection
attempt to its address and says beforehand how it takes the attempt and, if it accepts, what it
sends and when. `NameTable.resolve` finds the addresses of a host.
-/

namespace CoilProbe

/-- How a server leaves a connection. -/
inductive Signoff where
  /-- It closes it in both directions. -/
  | close
  /-- It sends nothing more but goes on reading. -/
  | shutdown
deriving DecidableEq

/-- What a server does about one request. -/
inductive Reaction where
  /-- It sends some chunks and then may leave. Without a chunk and without leaving it is silent. -/
  | send (chunks : List Bytes) (signoff : Option Signoff)
  /-- It drops the connection without reading the request. -/
  | reset
deriving DecidableEq

/-- The bytes that a server sends to answer a request. -/
def Reaction.bytes : Reaction → Bytes
  | .send chunks _ => chunks.flatten
  | .reset => []

/-- What a server does on the connection that it accepts. -/
structure Service where
  /-- What it has sent by the time the client is connected. -/
  first : List Bytes := []
  /-- How it leaves right after that, if it does. -/
  firstThen : Option Signoff := none
  /-- What it does about the requests, one after the other; it is silent about later ones. -/
  replies : List Reaction := []
deriving DecidableEq

/-- How a server takes a connection attempt. -/
inductive Admission where
  /-- It accepts. -/
  | accept (service : Service)
  /-- The attempt fails. -/
  | refuse (fault : IoFault)
  /-- The attempt never ends. -/
  | hang
deriving DecidableEq

/-- A server, good for one connection attempt. -/
structure Server where
  /-- Where it listens. -/
  address : SocketAddress
  /-- How it takes the attempt. -/
  admission : Admission
deriving DecidableEq

/-- What the name service does about a host name. -/
structure Lookup where
  /-- The addresses that it finds, in order, or why it finds none. -/
  answer : Except IoFault (List IPAddress)
  /-- After how many milliseconds it answers. -/
  delay : Nat := 0

/-- The host names that are known. -/
abbrev NameTable := List (String × Lookup)

/-- A network. -/
structure Network where
  /-- The host names that are known. -/
  names : NameTable := []
  /-- The servers. -/
  servers : List Server := []

/-- What comes of looking up a host. -/
inductive Resolution where
  /-- Its addresses. -/
  | found (addresses : List IPAddress)
  /-- There is no answer. -/
  | failed (fault : IoFault)
  /-- There is no answer in time. -/
  | late
deriving DecidableEq

/-- The addresses of a host, if they are known within `limit` milliseconds. A host that is an
address itself is not looked up, and a name with a NUL in it cannot be. -/
def NameTable.resolve (names : NameTable) (host : String) (limit : Nat) : Resolution :=
  match IPAddress.parse? host with
  | some ip => .found [ip]
  | none =>
    if host.toList.contains '\x00' then .failed .nulInHost
    else match names.lookup host with
      | none => .failed (.lookup .unknownName)
      | some entry =>
        if limit < entry.delay then .late
        else match entry.answer with
          | .ok addresses => .found addresses
          | .error fault => .failed fault

end CoilProbe
