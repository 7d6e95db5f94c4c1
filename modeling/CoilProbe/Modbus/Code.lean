import CoilProbe.Bytes

/-!
# Function codes and exception codes

The first byte of a response says which function it answers, with the high bit set when the server
answers by an exception. Codes without a name of their own are written with their number.
-/

namespace CoilProbe

/-- The code of a function. -/
structure FunctionCode where
  /-- The number of the function. -/
  number : UInt8
deriving DecidableEq

/-- The function that reads coils. -/
def FunctionCode.readCoils : FunctionCode := ⟨1⟩

/-- The name of a function. -/
def FunctionCode.name (f : FunctionCode) : String :=
  match f.number.toNat with
  | 0x01 => "ReadCoils"
  | 0x02 => "ReadDiscreteInputs"
  | 0x03 => "ReadHoldingRegisters"
  | 0x04 => "ReadInputRegisters"
  | 0x05 => "WriteSingleCoil"
  | 0x06 => "WriteSingleRegister"
  | 0x07 => "ReadExceptionStatus"
  | 0x08 => "Diagnostics"
  | 0x0B => "GetCommEventCounter"
  | 0x0C => "GetCommEventLog"
  | 0x0F => "WriteMultipleCoils"
  | 0x10 => "WriteMultipleRegisters"
  | 0x11 => "ReportServerId"
  | 0x14 => "ReadFileRecord"
  | 0x15 => "WriteFileRecord"
  | 0x16 => "MaskWriteRegister"
  | 0x17 => "ReadWriteMultipleRegisters"
  | 0x18 => "ReadFifoQueue"
  | 0x2B => "EncapsulatedInterfaceTransport"
  | n => "Custom(" ++ toString n ++ ")"

/-- The code by which a server says why it does not answer. -/
structure ExceptionCode where
  /-- The number of the exception. -/
  number : UInt8
deriving DecidableEq

/-- The name of an exception. -/
def ExceptionCode.name (e : ExceptionCode) : String :=
  match e.number.toNat with
  | 0x01 => "IllegalFunction"
  | 0x02 => "IllegalDataAddress"
  | 0x03 => "IllegalDataValue"
  | 0x04 => "ServerDeviceFailure"
  | 0x05 => "Acknowledge"
  | 0x06 => "ServerDeviceBusy"
  | 0x08 => "MemoryParityError"
  | 0x0A => "GatewayPathUnavailable"
  | 0x0B => "GatewayTargetDevice"
  | n => "Custom(" ++ toString n ++ ")"

/-- An exception in words. -/
def ExceptionCode.message (e : ExceptionCode) : String :=
  match e.number.toNat with
  | 0x01 => "Illegal function"
  | 0x02 => "Illegal data address"
  | 0x03 => "Illegal data value"
  | 0x04 => "Server device failure"
  | 0x05 => "Acknowledge"
  | 0x06 => "Server device busy"
  | 0x08 => "Memory parity error"
  | 0x0A => "Gateway path unavailable"
  | 0x0B => "Gateway target device failed to respond"
  | _ => "Custom"

end CoilProbe
