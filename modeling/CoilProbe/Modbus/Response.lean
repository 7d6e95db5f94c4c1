import CoilProbe.Modbus.Code

/-!
# Responses

What a server can answer to a request, one constructor for each layout of a response body.
-/

namespace CoilProbe

/-- How much of a device's identification a request asks for. -/
inductive DeviceIdAccess where
  | basic | regular | extended | specific
deriving DecidableEq

/-- How much of its identification a device offers, and whether object by object or as a stream. -/
inductive Conformity where
  | basicStream | regularStream | extendedStream | basic | regular | extended
deriving DecidableEq

/-- One object of a device's identification. -/
structure DeviceIdObject where
  /-- Which object it is. -/
  id : UInt8
  /-- Its value. -/
  value : Bytes
deriving DecidableEq

/-- The identification of a device. -/
structure DeviceId where
  /-- What was asked for. -/
  access : DeviceIdAccess
  /-- What the device offers. -/
  conformity : Conformity
  /-- Whether there are objects left for another answer. -/
  moreFollows : Bool
  /-- The object with which that answer starts. -/
  nextObject : UInt8
  /-- The objects of this answer. -/
  objects : List DeviceIdObject
deriving DecidableEq

/-- A response that is not an exception. -/
inductive Response where
  /-- Coils, eight for each byte of the answer. -/
  | readCoils (coils : List Bool)
  /-- Discrete inputs, eight for each byte of the answer. -/
  | readDiscreteInputs (inputs : List Bool)
  /-- Holding registers. -/
  | readHoldingRegisters (words : List UInt16)
  /-- Input registers. -/
  | readInputRegisters (words : List UInt16)
  /-- Registers read after others were written. -/
  | readWriteMultipleRegisters (words : List UInt16)
  /-- A coil was written. -/
  | writeSingleCoil (address : UInt16) (value : Bool)
  /-- A register was written. -/
  | writeSingleRegister (address value : UInt16)
  /-- Coils were written. -/
  | writeMultipleCoils (address quantity : UInt16)
  /-- Registers were written. -/
  | writeMultipleRegisters (address quantity : UInt16)
  /-- A register was masked. -/
  | maskWriteRegister (address andMask orMask : UInt16)
  /-- Identity and run status of the server. -/
  | reportServerId (id : UInt8) (running : Bool) (extra : Bytes)
  /-- Identification of the device. -/
  | readDeviceIdentification (device : DeviceId)
  /-- The response of any other function, as it came. -/
  | custom (function : FunctionCode) (body : Bytes)
deriving DecidableEq

/-- A server's refusal of a request. -/
structure ExceptionResponse where
  /-- The function that was refused. -/
  function : FunctionCode
  /-- Why. -/
  exception : ExceptionCode
deriving DecidableEq

/-- What a response body says: an answer, or an exception. -/
inductive Reply where
  /-- An answer. -/
  | answer (response : Response)
  /-- An exception. -/
  | refusal (exception : ExceptionResponse)
deriving DecidableEq

end CoilProbe
