import CoilProbe.Modbus.Response.Decoder

/-!
# Requests and frames

On a connection every message is a frame: a transaction id, a protocol id that is always zero, the
length of the rest, a unit id, and a body. `Request.encode` is the frame of a request for one coil,
and `scan` finds out what a client knows of the next frame once it holds some bytes.
-/

namespace CoilProbe

/-- What ties an answer to its request. -/
structure Header where
  /-- The number of the transaction on its connection. -/
  transaction : UInt16
  /-- The unit addressed. -/
  unit : UInt8
deriving DecidableEq

/-- The text of a header. -/
def Header.text (h : Header) : String :=
  "Header \x7b transaction_id: " ++ toString h.transaction.toNat
    ++ ", unit_id: " ++ toString h.unit.toNat ++ " \x7d"

/-- A request to read one coil. -/
structure Request where
  /-- Transaction and unit. -/
  header : Header
  /-- The address of the coil. -/
  address : UInt16
deriving DecidableEq

/-- The twelve bytes of a request: the function is 1 and the quantity one coil. -/
def Request.encode (r : Request) : Bytes :=
  wordBytes r.header.transaction ++ [0, 0, 0, 6, r.header.unit, 1] ++ wordBytes r.address ++ [0, 1]

/-- A frame from a server. -/
structure Frame where
  /-- Transaction and unit that it answers. -/
  header : Header
  /-- What it says. -/
  reply : Reply
deriving DecidableEq

/-- What is wrong with a frame. -/
inductive FrameFault where
  /-- Its length leaves no room for the unit id. -/
  | noLength
  /-- It is of another protocol. -/
  | protocol (id : UInt16)
  /-- Its body is wrong. -/
  | body (fault : BodyFault)
deriving DecidableEq

/-- The text of a fault. -/
def FrameFault.message : FrameFault → String
  | .noLength => "Invalid data length: 0"
  | .protocol id =>
    "Invalid protocol identifier: expected = 0, actual = " ++ toString id.toNat
  | .body fault => fault.message

/-- What some bytes tell about the frame at their head. -/
inductive Scan where
  /-- More bytes are needed. -/
  | incomplete
  /-- There is no making sense of it. -/
  | malformed (fault : FrameFault)
  /-- It is complete. -/
  | complete (frame : Frame)
deriving DecidableEq

/-- Reads a complete frame: its protocol id first, then its body. -/
def Frame.decode (transaction protocol : UInt16) (unit : UInt8) (body : Bytes) : Scan :=
  if protocol ≠ 0 then .malformed (.protocol protocol)
  else match Reply.decode body with
    | .ok reply => .complete ⟨⟨transaction, unit⟩, reply⟩
    | .error fault => .malformed (.body fault)

/-- What some bytes tell about the frame at their head. The length counts the unit id and the body;
bytes after them belong to later frames. -/
def scan : Bytes → Scan
  | t1 :: t0 :: p1 :: p0 :: l1 :: l0 :: unit :: rest =>
    let length := (word l1 l0).toNat
    if length = 0 then .malformed .noLength
    else if rest.length + 1 < length then .incomplete
    else Frame.decode (word t1 t0) (word p1 p0) unit (rest.take (length - 1))
  | _ => .incomplete

/-- How many bytes a frame takes that begins with some bytes, from its transaction id to its end. -/
def frameSize : Bytes → Nat
  | _ :: _ :: _ :: _ :: l1 :: l0 :: _ => 6 + (word l1 l0).toNat
  | _ => 0

/-- How many bytes are used up in finding out what they tell: a frame's with its body, whatever is
wrong with that, only those before the body if the protocol is another one, and none if there is no
frame. -/
def Scan.used (bytes : Bytes) : Scan → Nat
  | .complete _ | .malformed (.body _) => frameSize bytes
  | .malformed (.protocol _) => 7
  | .malformed .noLength | .incomplete => 0

end CoilProbe
