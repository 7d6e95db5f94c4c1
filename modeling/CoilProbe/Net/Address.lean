import CoilProbe.Bytes

/-!
# Network addresses

An address of a host in either family, and the address of a service on it. How they are written is
in `CoilProbe.Net.Address.Printer`, how they are read in `CoilProbe.Net.Address.Parser`.
-/

namespace CoilProbe

/-- An IPv4 address as its four bytes. -/
structure IPv4 where
  /-- The first, most significant byte. -/
  a : UInt8
  /-- The second byte. -/
  b : UInt8
  /-- The third byte. -/
  c : UInt8
  /-- The last byte. -/
  d : UInt8
deriving DecidableEq

/-- An IPv6 address as its eight groups of sixteen bits. -/
structure IPv6 where
  /-- The groups, the most significant one first. -/
  groups : List UInt16
  /-- There are eight of them. -/
  size : groups.length = 8
deriving DecidableEq

/-- An address of either family. -/
inductive IPAddress where
  /-- An IPv4 address. -/
  | v4 (ip : IPv4)
  /-- An IPv6 address. -/
  | v6 (ip : IPv6)
deriving DecidableEq

/-- The address of a service: a host address and a port. -/
inductive SocketAddress where
  /-- On a host with an IPv4 address. -/
  | v4 (ip : IPv4) (port : UInt16)
  /-- On a host with an IPv6 address, which may be one of a zone; zone zero means none. -/
  | v6 (ip : IPv6) (zone : UInt32) (port : UInt16)
deriving DecidableEq

/-- The address of the service at a port of a host, in no zone. -/
def IPAddress.withPort (port : UInt16) : IPAddress → SocketAddress
  | .v4 ip => .v4 ip port
  | .v6 ip => .v6 ip 0 port

/-- The two groups that an IPv4 address fills at the end of an IPv6 address. -/
def IPv4.groups (ip : IPv4) : List UInt16 := [word ip.a ip.b, word ip.c ip.d]

/-- The IPv4 address inside an IPv6 address of the mapped form `::ffff:a.b.c.d`. -/
def IPv6.mapped? (ip : IPv6) : Option IPv4 :=
  match ip.groups with
  | [0, 0, 0, 0, 0, 0xffff, hi, lo] => some ⟨highByte hi, lowByte hi, highByte lo, lowByte lo⟩
  | _ => none

end CoilProbe
