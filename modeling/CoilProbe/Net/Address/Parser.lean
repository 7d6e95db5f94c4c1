import CoilProbe.Net.Address
import CoilProbe.Text.Digits

/-!
# Reading addresses

Readers take the characters still unread and give the value and the characters after it. A whole
text is an address if a reader uses it up.

An IPv4 address is four decimal numbers of at most three digits, without leading zeros and at most
255. An IPv6 address is eight groups of one to four hexadecimal digits, where `::` stands for one
group of zero or more, and where a dotted IPv4 address may take the place of the last two groups.
-/

namespace CoilProbe

/-- A reader of a value at the head of a text. -/
abbrev Reader (α : Type) := List Char → Option (α × List Char)

/-- The digit values at the head of a text, as many as there are, and what follows them. -/
def digitRun (digit? : Char → Option Nat) : List Char → List Nat × List Char
  | [] => ([], [])
  | c :: cs =>
    match digit? c with
    | some d => let (ds, rest) := digitRun digit? cs; (d :: ds, rest)
    | none => ([], c :: cs)

/-- One of the four numbers of an IPv4 address. -/
def readByte : Reader UInt8 := fun cs =>
  let (ds, rest) := digitRun decimalDigit? cs
  if ds = [] ∨ 3 < ds.length ∨ (1 < ds.length ∧ ds.head? = some 0) ∨ 255 < ofDigits 10 ds then none
  else some (UInt8.ofNat (ofDigits 10 ds), rest)

/-- One group of an IPv6 address. -/
def readGroup : Reader UInt16 := fun cs =>
  let (ds, rest) := digitRun hexDigit? cs
  if ds = [] ∨ 4 < ds.length then none else some (UInt16.ofNat (ofDigits 16 ds), rest)

/-- A given character and the value after it. -/
def after {α : Type} (mark : Char) (read : Reader α) : Reader α
  | c :: cs => if c = mark then read cs else none
  | [] => none

/-- An IPv4 address. -/
def readIPv4 : Reader IPv4 := fun cs => do
  let (a, cs) ← readByte cs
  let (b, cs) ← after '.' readByte cs
  let (c, cs) ← after '.' readByte cs
  let (d, cs) ← after '.' readByte cs
  return (⟨a, b, c, d⟩, cs)

/-- Groups read in a row: which ones, and what follows them. -/
structure GroupRun where
  /-- The groups in the order of the text. -/
  groups : List UInt16
  /-- Whether the last two were written as an IPv4 address. -/
  dotted : Bool
  /-- What follows them. -/
  rest : List Char

/-- At most `room` groups with colons between them, as many as there are; `lead` is what stands
before each of them: nothing before the first and a colon before the others. A dotted IPv4 address
is taken where there is room for two groups, and ends the row. -/
def readGroups : (room : Nat) → (first : Bool) → List Char → GroupRun
  | 0, _, cs => ⟨[], false, cs⟩
  | room + 1, first, cs =>
    let lead {α : Type} (read : Reader α) : Reader α := if first then read else after ':' read
    match (if 0 < room then lead readIPv4 cs else none) with
    | some (ip, rest) => ⟨ip.groups, true, rest⟩
    | none =>
      match lead readGroup cs with
      | some (g, rest) =>
        let run := readGroups room false rest
        { run with groups := g :: run.groups }
      | none => ⟨[], false, cs⟩

/-- The address of eight groups. -/
def IPv6.ofGroups? (groups : List UInt16) : Option IPv6 :=
  if h : groups.length = 8 then some ⟨groups, h⟩ else none

/-- An IPv6 address. -/
def readIPv6 : Reader IPv6 := fun cs =>
  let head := readGroups 8 true cs
  if head.groups.length = 8 then (IPv6.ofGroups? head.groups).map (·, head.rest)
  else if head.dotted then none
  else match head.rest with
    | ':' :: ':' :: cs =>
      let tail := readGroups (7 - head.groups.length) true cs
      let gap := List.replicate (8 - head.groups.length - tail.groups.length) 0
      (IPv6.ofGroups? (head.groups ++ gap ++ tail.groups)).map (·, tail.rest)
    | _ => none

/-- The value of a text that a reader uses up. -/
def wholly {α : Type} (read : Reader α) (cs : List Char) : Option α :=
  match read cs with
  | some (value, []) => some value
  | _ => none

/-- The address that a text is, if it is one. -/
def IPAddress.ofChars? (cs : List Char) : Option IPAddress :=
  match wholly readIPv4 cs with
  | some ip => some (.v4 ip)
  | none => (wholly readIPv6 cs).map .v6

/-- The address that a text is, if it is one. -/
def IPAddress.parse? (text : String) : Option IPAddress := IPAddress.ofChars? text.toList

/-- A decimal number of at most `greatest`, perhaps with leading zeros. -/
def readDecimal (greatest : Nat) : Reader Nat := fun cs =>
  let (ds, rest) := digitRun decimalDigit? cs
  if ds = [] ∨ greatest < ofDigits 10 ds then none else some (ofDigits 10 ds, rest)

/-- A port. -/
def readPort : Reader UInt16 := fun cs =>
  (readDecimal 65535 cs).map fun (n, rest) => (UInt16.ofNat n, rest)

/-- A zone, which follows a percent sign; there may be none. -/
def readZone (cs : List Char) : UInt32 × List Char :=
  match after '%' (readDecimal 4294967295) cs with
  | some (n, rest) => (UInt32.ofNat n, rest)
  | none => (0, cs)

/-- A socket address: `ip:port`, the address in brackets and with its zone if it is an IPv6 one. -/
def readSocketAddress : Reader SocketAddress := fun cs =>
  match cs with
  | '[' :: inner => do
    let (ip, cs) ← readIPv6 inner
    let (zone, cs) := readZone cs
    let (port, cs) ← after ']' (after ':' readPort) cs
    return (.v6 ip zone port, cs)
  | _ => do
    let (ip, cs) ← readIPv4 cs
    let (port, cs) ← after ':' readPort cs
    return (.v4 ip port, cs)

/-- The socket address that a text is, if it is one. -/
def SocketAddress.parse? (text : String) : Option SocketAddress :=
  wholly readSocketAddress text.toList

end CoilProbe
