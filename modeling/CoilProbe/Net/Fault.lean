import CoilProbe.Net.SystemError

/-!
# Faults of input and output

What can go wrong below the protocol: the operating system refuses an operation, the name service
has no answer, or an output takes nothing. `IoFault.message` is the text of a fault.
-/

namespace CoilProbe

/-- Reasons for which the name service has no address. -/
inductive LookupRefusal where
  /-- The name is not known. -/
  | unknownName
  /-- No answer for now. -/
  | tryAgain
  /-- No answer, and there will be none. -/
  | unrecoverable
  /-- The name is known and has no address. -/
  | noAddress
  /-- The service ran out of memory. -/
  | outOfMemory
  /-- The address family is not supported. -/
  | unsupportedFamily
deriving DecidableEq

/-- The text of a refusal. -/
def LookupRefusal.message : LookupRefusal → String
  | .unknownName => "Name or service not known"
  | .tryAgain => "Temporary failure in name resolution"
  | .unrecoverable => "Non-recoverable failure in name resolution"
  | .noAddress => "No address associated with hostname"
  | .outOfMemory => "Memory allocation failure"
  | .unsupportedFamily => "ai_family not supported"

/-- The classes of faults that have a text of their own. -/
inductive FaultKind where
  | notFound | permissionDenied | connectionRefused | connectionReset | connectionAborted
  | notConnected | addressInUse | addressNotAvailable | brokenPipe | alreadyExists | wouldBlock
  | invalidInput | invalidData | timedOut | writeZero | interrupted | unsupported | unexpectedEof
  | outOfMemory | storageFull | other
deriving DecidableEq

/-- The text of a class of faults. -/
def FaultKind.message : FaultKind → String
  | .notFound => "entity not found"
  | .permissionDenied => "permission denied"
  | .connectionRefused => "connection refused"
  | .connectionReset => "connection reset"
  | .connectionAborted => "connection aborted"
  | .notConnected => "not connected"
  | .addressInUse => "address in use"
  | .addressNotAvailable => "address not available"
  | .brokenPipe => "broken pipe"
  | .alreadyExists => "entity already exists"
  | .wouldBlock => "operation would block"
  | .invalidInput => "invalid input parameter"
  | .invalidData => "invalid data"
  | .timedOut => "timed out"
  | .writeZero => "write zero"
  | .interrupted => "operation interrupted"
  | .unsupported => "unsupported"
  | .unexpectedEof => "unexpected end of file"
  | .outOfMemory => "out of memory"
  | .storageFull => "no storage space"
  | .other => "other error"

/-- A fault of input or output. It is a number, a class or a text, and no other fault lies below
it. -/
inductive IoFault where
  /-- The operating system's error of a number. -/
  | os (number : Nat)
  /-- A fault known by its class only. -/
  | ofKind (kind : FaultKind)
  /-- A fault that brings its own text. -/
  | described (text : String)
  /-- The name service has no address. -/
  | lookup (reason : LookupRefusal)
  /-- The host name has a NUL in it, so it cannot be looked up. -/
  | nulInHost
  /-- An output took no byte although it reported no fault. -/
  | wroteNothing
  /-- Whatever error the operating system reported last, about something else. -/
  | leftOver
deriving DecidableEq

/-- The text of a fault. -/
def IoFault.message : IoFault → String
  | .os number => osErrorName number ++ " (os error " ++ toString number ++ ")"
  | .ofKind kind => kind.message
  | .described text => text
  | .lookup reason => "failed to lookup address information: " ++ reason.message
  | .nulInHost => "file name contained an unexpected NUL byte"
  | .wroteNothing => "failed to write whole buffer"
  | .leftOver => "<last_os_error>"

/-- The fault below a fault. -/
def IoFault.source : IoFault → Option IoFault
  | .os _ | .ofKind _ | .described _ | .lookup _ | .nulInHost | .wroteNothing | .leftOver => none

theorem IoFault.source_eq_none (fault : IoFault) : fault.source = none := by
  cases fault <;> rfl

/-- A write to a connection that the other side has closed. -/
def IoFault.brokenPipe : IoFault := .os 32

/-- A read from a connection that the other side has reset. -/
def IoFault.connectionReset : IoFault := .os 104

/-- A connection attempt that nobody answers for. -/
def IoFault.connectionRefused : IoFault := .os 111

end CoilProbe
