import CoilProbe.Failure

/-!
# Events

What a probe writes into its journal, each event with the component that notes it, a level, and a
message.
-/

namespace CoilProbe

/-- How much an event matters, the most important level first. -/
inductive Level where
  | error | warn | info | debug | trace
deriving DecidableEq

/-- The position of a level: the less it matters, the later. -/
def Level.rank : Level → Nat
  | .error => 1
  | .warn => 2
  | .info => 3
  | .debug => 4
  | .trace => 5

/-- The name of a level. -/
def Level.name : Level → String
  | .error => "ERROR"
  | .warn => "WARN"
  | .info => "INFO"
  | .debug => "DEBUG"
  | .trace => "TRACE"

/-- The parts of a probe that note events. -/
inductive Component where
  /-- The part that makes connections and reads coils. -/
  | client
  /-- The part that runs a probe from its beginning to its end. -/
  | reader
deriving DecidableEq

/-- The name of a component. -/
def Component.name : Component → String
  | .client => "modbus_coil_reader::tcp::client"
  | .reader => "modbus_coil_reader::reader"

/-- An event of a probe. -/
inductive Event where
  /-- A connection attempt begins. -/
  | connecting (address : SocketAddress) (unit : UInt8)
  /-- It succeeded. -/
  | connected (address : SocketAddress)
  /-- It failed. -/
  | connectFailed (address : SocketAddress) (fault : IoFault)
  /-- It took too long. -/
  | connectTimedOut (address : SocketAddress) (timeout : UInt64)
  /-- A coil is asked for. -/
  | reading (address : UInt16)
  /-- No connection can be made to the server of a probe. -/
  | noConnection (target : String) (failure : Failure)
  /-- The coil of a probe was read. -/
  | coil (address : UInt16) (target : String) (value : Bool)
deriving DecidableEq

namespace Event

/-- The level of an event. -/
def level : Event → Level
  | .noConnection _ _ => .info
  | .connecting _ _ | .connected _ | .connectFailed _ _ | .connectTimedOut _ _ | .reading _
  | .coil _ _ _ => .debug

/-- The component that notes an event. -/
def component : Event → Component
  | .noConnection _ _ | .coil _ _ _ => .reader
  | .connecting _ _ | .connected _ | .connectFailed _ _ | .connectTimedOut _ _ | .reading _ =>
    .client

/-- The message of an event. -/
def message : Event → String
  | .connecting address unit =>
    "Connecting to " ++ address.text ++ " with unit id " ++ toString unit.toNat
  | .connected address => "Modbus TCP connected to " ++ address.text
  | .connectFailed address fault =>
    "Modbus TCP failed to connect to " ++ address.text ++ ". [" ++ fault.message ++ "]"
  | .connectTimedOut address timeout =>
    "Modbus TCP connect to " ++ address.text ++ " timed out after " ++ toString timeout.toNat
      ++ " ms"
  | .reading address =>
    "Read coil at " ++ toString address.toNat
      ++ " (0x" ++ String.ofList (hexUpper 4 address.toNat) ++ ")"
  | .noConnection target failure =>
    "Open connection to " ++ target ++ " failed. [" ++ failure.message ++ "]"
  | .coil address target value =>
    "Coil " ++ toString address.toNat ++ " of " ++ target ++ " is " ++ flagText value

/-- The record of an event: level, component and message in one line. -/
def record (e : Event) : String :=
  e.level.name ++ " " ++ e.component.name ++ ": " ++ e.message

end Event

end CoilProbe
