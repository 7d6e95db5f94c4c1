import CoilProbe.Net.Address
import CoilProbe.Text.Digits

/-!
# Addresses as text

The canonical text of an address. IPv6 groups are written in lower-case hexadecimal without leading
zeros, the first of the longest runs of at least two zero groups is written `::`, and a mapped IPv4
address keeps its dotted form.
-/

namespace CoilProbe

/-- Four decimal numbers with points between them. -/
def IPv4.text (ip : IPv4) : List Char :=
  decimal ip.a.toNat ++ '.' :: (decimal ip.b.toNat ++ '.' ::
    (decimal ip.c.toNat ++ '.' :: decimal ip.d.toNat))

/-- Where the first of the longest runs of zero groups starts, and how long it is. -/
def longestZeroRun : List UInt16 → Nat × Nat
  | [] => (0, 0)
  | g :: rest =>
    let here := ((g :: rest).takeWhile (· == 0)).length
    let (start, size) := longestZeroRun rest
    if here < size then (start + 1, size) else (0, here)

/-- Groups in hexadecimal with colons between them. -/
def groupsText (groups : List UInt16) : List Char :=
  List.intercalate [':'] (groups.map fun g => hex g.toNat)

/-- The canonical text of an IPv6 address. -/
def IPv6.text (ip : IPv6) : List Char :=
  match ip.mapped? with
  | some inner => "::ffff:".toList ++ inner.text
  | none =>
    let (start, size) := longestZeroRun ip.groups
    if 1 < size then
      groupsText (ip.groups.take start) ++ ':' :: ':' :: groupsText (ip.groups.drop (start + size))
    else groupsText ip.groups

/-- The canonical text of an address, without brackets. -/
def IPAddress.text : IPAddress → List Char
  | .v4 ip => ip.text
  | .v6 ip => ip.text

/-- A zone as it follows an address; no zone is not written. -/
def zoneText (zone : UInt32) : List Char := if zone = 0 then [] else '%' :: decimal zone.toNat

/-- The text of a socket address: an IPv6 address stands in brackets, with its zone. -/
def SocketAddress.text (s : SocketAddress) : String :=
  String.ofList <| match s with
    | .v4 ip port => ip.text ++ ':' :: decimal port.toNat
    | .v6 ip zone port => '[' :: (ip.text ++ zoneText zone ++ ']' :: ':' :: decimal port.toNat)

end CoilProbe
