import CoilProbe.Modbus.Response
import CoilProbe.Text.Digits

/-!
# Decoding response bodies

A response body is a function code followed by fields whose layout the code decides. Fields are
read from left to right, and the first thing wrong with them is the fault of the body. Bytes left
over after the last field are a fault too, save in an exception.
-/

namespace CoilProbe

/-- What is wrong with a response body. -/
inductive BodyFault where
  /-- The body ends inside a field. -/
  | truncated
  /-- A byte count does not fit what follows it. -/
  | tooShort
  /-- The body is longer than a response may be. -/
  | oversized
  /-- Bytes follow the last field. -/
  | leftOver
  /-- The byte count of a row of words is odd. -/
  | oddQuantity
  /-- The value of a coil is neither on nor off. -/
  | coilValue
  /-- A run status is neither on nor off. -/
  | runStatus (status : UInt8)
  /-- An encapsulated interface other than device identification. -/
  | interface (type : UInt8)
  /-- No such access to an identification. -/
  | deviceIdAccess
  /-- No such conformity level. -/
  | conformity
  /-- The value of an identification object is longer than the body. -/
  | objectLength
deriving DecidableEq

/-- The text of a fault. -/
def BodyFault.message : BodyFault → String
  | .truncated => "failed to fill whole buffer"
  | .tooShort => "too short"
  | .oversized => "response PDU size exceeded"
  | .leftOver => "undecoded response data"
  | .oddQuantity => "invalid quantity"
  | .coilValue => "Invalid coil value: \x7b\x7d"
  | .runStatus status =>
    "invalid run indication status: 0x" ++ String.ofList (hexUpper 2 status.toNat)
  | .interface type => "unsupported MEI type: 0x" ++ String.ofList (hexUpper 2 type.toNat)
  | .deviceIdAccess => "Invalid Read device ID code"
  | .conformity => "Invalid conformity level"
  | .objectLength => "Invalid object length"

/-- The result of reading fields. A reader gives the value and the bytes after it. -/
abbrev Decoding := Except BodyFault

namespace Field

/-- A byte. -/
def byte : Bytes → Decoding (UInt8 × Bytes)
  | b :: rest => .ok (b, rest)
  | [] => .error .truncated

/-- A word. -/
def word : Bytes → Decoding (UInt16 × Bytes)
  | hi :: lo :: rest => .ok (CoilProbe.word hi lo, rest)
  | _ => .error .truncated

/-- A row of words. -/
def words : Nat → Bytes → Decoding (List UInt16 × Bytes)
  | 0, bytes => .ok ([], bytes)
  | n + 1, bytes => do
    let (w, rest) ← word bytes
    let (ws, rest) ← words n rest
    return (w :: ws, rest)

/-- A given number of bytes; `fault` is raised if there are fewer. -/
def bytes (n : Nat) (fault : BodyFault) (bytes : Bytes) : Decoding (Bytes × Bytes) :=
  if bytes.length < n then .error fault else .ok (bytes.take n, bytes.drop n)

end Field

/-- The eight coils of a byte, the lowest bit first. -/
def coilsOfByte (b : UInt8) : List Bool := (List.range 8).map b.toNat.testBit

/-- A response has at most 253 bytes, the function code included. -/
def checkSize (body : Bytes) : Decoding Unit :=
  if 252 < body.length then .error .oversized else .ok ()

namespace Response

/-- A byte count and as many bytes of coils. -/
def coilRow (body : Bytes) : Decoding (List Bool × Bytes) := do
  checkSize body
  let (count, rest) ← Field.byte body
  let (packed, rest) ← Field.bytes count.toNat .tooShort rest
  return (packed.flatMap coilsOfByte, rest)

/-- An even byte count and as many bytes of words. -/
def wordRow (body : Bytes) : Decoding (List UInt16 × Bytes) := do
  checkSize body
  let (count, rest) ← Field.byte body
  if count.toNat % 2 = 1 then .error .oddQuantity
  else Field.words (count.toNat / 2) rest

/-- The value of a written coil: all ones and zeros for on, zero for off. -/
def coilValue (w : UInt16) : Decoding Bool :=
  match w.toNat with
  | 0xff00 => .ok true
  | 0x0000 => .ok false
  | _ => .error .coilValue

/-- An address and the value written to the coil there. -/
def writtenCoil (body : Bytes) : Decoding (Response × Bytes) := do
  let (address, rest) ← Field.word body
  let (value, rest) ← Field.word rest
  return (.writeSingleCoil address (← coilValue value), rest)

/-- Two words, as written registers and written rows have them. -/
def twoWords (make : UInt16 → UInt16 → Response) (body : Bytes) : Decoding (Response × Bytes) := do
  let (first, rest) ← Field.word body
  let (second, rest) ← Field.word rest
  return (make first second, rest)

/-- An address and the masks applied to the register there. -/
def maskedRegister (body : Bytes) : Decoding (Response × Bytes) := do
  let (address, rest) ← Field.word body
  let (andMask, rest) ← Field.word rest
  let (orMask, rest) ← Field.word rest
  return (.maskWriteRegister address andMask orMask, rest)

/-- A run status: all ones for running, zero for stopped. -/
def runStatus (status : UInt8) : Decoding Bool :=
  match status.toNat with
  | 0xff => .ok true
  | 0x00 => .ok false
  | _ => .error (.runStatus status)

/-- A byte count, an identity, a run status, and the bytes that the count still covers. -/
def serverId (body : Bytes) : Decoding (Response × Bytes) := do
  checkSize body
  let (count, rest) ← Field.byte body
  if count.toNat < 2 then .error .tooShort
  else do
    let (id, rest) ← Field.byte rest
    let (status, rest) ← Field.byte rest
    let running ← runStatus status
    let (extra, rest) ← Field.bytes (count.toNat - 2) .truncated rest
    return (.reportServerId id running extra, rest)

/-- What an identification was asked for. -/
def deviceIdAccess (b : UInt8) : Decoding DeviceIdAccess :=
  match b.toNat with
  | 1 => .ok .basic
  | 2 => .ok .regular
  | 3 => .ok .extended
  | 4 => .ok .specific
  | _ => .error .deviceIdAccess

/-- What a device offers of its identification; the high bit says that objects can be had one by
one. -/
def conformity (b : UInt8) : Decoding Conformity :=
  match b.toNat with
  | 0x01 => .ok .basicStream
  | 0x02 => .ok .regularStream
  | 0x03 => .ok .extendedStream
  | 0x81 => .ok .basic
  | 0x82 => .ok .regular
  | 0x83 => .ok .extended
  | _ => .error .conformity

/-- A row of identification objects, each with its length before its value. -/
def deviceIdObjects : Nat → Bytes → Decoding (List DeviceIdObject × Bytes)
  | 0, body => .ok ([], body)
  | n + 1, body => do
    let (id, rest) ← Field.byte body
    let (size, rest) ← Field.byte rest
    let (value, rest) ← Field.bytes size.toNat .objectLength rest
    let (objects, rest) ← deviceIdObjects n rest
    return (⟨id, value⟩ :: objects, rest)

/-- The type of the encapsulated interface and, for type `0E`, an identification. -/
def deviceIdentification (body : Bytes) : Decoding (Response × Bytes) := do
  let (type, rest) ← Field.byte body
  if type.toNat ≠ 0x0e then .error (.interface type)
  else do
    checkSize body
    let (access, rest) ← Field.byte rest
    let access ← deviceIdAccess access
    let (level, rest) ← Field.byte rest
    let level ← conformity level
    let (more, rest) ← Field.byte rest
    let (next, rest) ← Field.byte rest
    let (count, rest) ← Field.byte rest
    let (objects, rest) ← deviceIdObjects count.toNat rest
    return (.readDeviceIdentification ⟨access, level, more == 0xff, next, objects⟩, rest)

/-- Reads the fields of a response to a function. -/
def ofFields (function : UInt8) (body : Bytes) : Decoding (Response × Bytes) :=
  match function.toNat with
  | 0x01 => do let (coils, rest) ← coilRow body; return (.readCoils coils, rest)
  | 0x02 => do let (inputs, rest) ← coilRow body; return (.readDiscreteInputs inputs, rest)
  | 0x03 => do let (words, rest) ← wordRow body; return (.readHoldingRegisters words, rest)
  | 0x04 => do let (words, rest) ← wordRow body; return (.readInputRegisters words, rest)
  | 0x17 => do let (words, rest) ← wordRow body; return (.readWriteMultipleRegisters words, rest)
  | 0x05 => writtenCoil body
  | 0x06 => twoWords .writeSingleRegister body
  | 0x0f => twoWords .writeMultipleCoils body
  | 0x10 => twoWords .writeMultipleRegisters body
  | 0x16 => maskedRegister body
  | 0x11 => serverId body
  | 0x2b => deviceIdentification body
  | _ => .ok (.custom ⟨function⟩ body, [])

end Response

/-- What a response body says. A function code with the high bit set is an exception, whose code is
in the next byte. -/
def Reply.decode : Bytes → Decoding Reply
  | [] => .error .truncated
  | function :: body =>
    if 0x80 ≤ function.toNat then do
      let (code, _) ← Field.byte body
      return .refusal ⟨⟨UInt8.ofNat (function.toNat - 0x80)⟩, ⟨code⟩⟩
    else do
      let (response, rest) ← Response.ofFields function body
      if rest = [] then return .answer response else .error .leftOver

end CoilProbe
