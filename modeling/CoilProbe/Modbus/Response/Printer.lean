import CoilProbe.Modbus.Response
import CoilProbe.Text.Digits

/-!
# Replies as text

The text of a reply in the messages about replies that do not fit their request: constructors with
their arguments in parentheses, lists in brackets, byte strings in quotes.
-/

namespace CoilProbe

/-- Items in brackets, separated by commas. -/
def bracketed (items : List String) : String := "[" ++ String.intercalate ", " items ++ "]"

/-- The text of a truth value. -/
def flagText (b : Bool) : String := if b then "true" else "false"

/-- The text of a byte inside quotes: printable characters as they are, the quote, the backslash
and some control characters with a backslash, all others by their number. -/
def escapedByte (b : UInt8) : List Char :=
  match Char.ofNat b.toNat with
  | '\n' => ['\\', 'n']
  | '\r' => ['\\', 'r']
  | '\t' => ['\\', 't']
  | '\\' => ['\\', '\\']
  | '"' => ['\\', '"']
  | '\x00' => ['\\', '0']
  | c => if 0x20 ≤ b.toNat ∧ b.toNat ≤ 0x7e then [c] else '\\' :: 'x' :: hexFilled 2 b.toNat

/-- The text of a byte string. -/
def quotedBytes (bytes : Bytes) : String :=
  "b\"" ++ String.ofList (bytes.flatMap escapedByte) ++ "\""

/-- Decimal numbers in brackets. -/
def wordsText (words : List UInt16) : String := bracketed (words.map fun w => toString w.toNat)

/-- The text of what was asked for. -/
def DeviceIdAccess.text : DeviceIdAccess → String
  | .basic => "Basic"
  | .regular => "Regular"
  | .extended => "Extended"
  | .specific => "Specific"

/-- The text of what a device offers. -/
def Conformity.text : Conformity → String
  | .basicStream => "BasicIdentificationStreamOnly"
  | .regularStream => "RegularIdentificationStreamOnly"
  | .extendedStream => "ExtendedIdentificationStreamOnly"
  | .basic => "BasicIdentification"
  | .regular => "RegularIdentification"
  | .extended => "ExtendedIdentification"

/-- The text of an identification object. -/
def DeviceIdObject.text (o : DeviceIdObject) : String :=
  "DeviceIdObject \x7b id: " ++ toString o.id.toNat ++ ", value: " ++ quotedBytes o.value ++ " \x7d"

/-- The text of an identification. -/
def DeviceId.text (d : DeviceId) : String :=
  "ReadDeviceIdentificationResponse \x7b read_code: " ++ d.access.text
    ++ ", conformity_level: " ++ d.conformity.text
    ++ ", more_follows: " ++ flagText d.moreFollows
    ++ ", next_object_id: " ++ toString d.nextObject.toNat
    ++ ", device_id_objects: " ++ bracketed (d.objects.map DeviceIdObject.text) ++ " \x7d"

/-- Arguments in parentheses, separated by commas. -/
def applied (name : String) (arguments : List String) : String :=
  name ++ "(" ++ String.intercalate ", " arguments ++ ")"

/-- The text of a response. -/
def Response.text : Response → String
  | .readCoils coils => applied "ReadCoils" [bracketed (coils.map flagText)]
  | .readDiscreteInputs inputs => applied "ReadDiscreteInputs" [bracketed (inputs.map flagText)]
  | .readHoldingRegisters words => applied "ReadHoldingRegisters" [wordsText words]
  | .readInputRegisters words => applied "ReadInputRegisters" [wordsText words]
  | .readWriteMultipleRegisters words => applied "ReadWriteMultipleRegisters" [wordsText words]
  | .writeSingleCoil address value =>
    applied "WriteSingleCoil" [toString address.toNat, flagText value]
  | .writeSingleRegister address value =>
    applied "WriteSingleRegister" [toString address.toNat, toString value.toNat]
  | .writeMultipleCoils address quantity =>
    applied "WriteMultipleCoils" [toString address.toNat, toString quantity.toNat]
  | .writeMultipleRegisters address quantity =>
    applied "WriteMultipleRegisters" [toString address.toNat, toString quantity.toNat]
  | .maskWriteRegister address andMask orMask =>
    applied "MaskWriteRegister"
      [toString address.toNat, toString andMask.toNat, toString orMask.toNat]
  | .reportServerId id running extra =>
    applied "ReportServerId"
      [toString id.toNat, flagText running, bracketed (extra.map fun b => toString b.toNat)]
  | .readDeviceIdentification device => applied "ReadDeviceIdentification" [device.text]
  | .custom function body => applied "Custom" [toString function.number.toNat, quotedBytes body]

/-- The text of an exception response. -/
def ExceptionResponse.text (e : ExceptionResponse) : String :=
  "ExceptionResponse \x7b function: " ++ e.function.name
    ++ ", exception: " ++ e.exception.name ++ " \x7d"

/-- The text of a reply. -/
def Reply.text : Reply → String
  | .answer response => "Ok(" ++ response.text ++ ")"
  | .refusal exception => "Err(" ++ exception.text ++ ")"

end CoilProbe
