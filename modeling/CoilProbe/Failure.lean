import CoilProbe.Modbus.Answer
import CoilProbe.Net.Address.Printer

/-!
# Failures

Why a probe failed. A failure has a message, and some have a cause below them, which may have one
in turn. A report names the coil and the server, then has the message, then the texts of the causes,
found by going from each to the next.
-/

namespace CoilProbe

/-- What lies below a failure. -/
inductive Cause where
  /-- A fault of input or output. -/
  | io (fault : IoFault)
  /-- No valid reply. -/
  | transport (fault : TransportFault)
deriving DecidableEq

namespace Cause

/-- The text of a cause. -/
def message : Cause → String
  | .io fault => fault.message
  | .transport fault => fault.message

/-- The cause of a cause. -/
def source : Cause → Option Cause
  | .io fault => fault.source.map .io
  | .transport fault => fault.source.map .io

theorem source_eq_none (c : Cause) : c.source = none := by
  cases c with
  | io fault => rw [source, fault.source_eq_none, Option.map_none]
  | transport fault => rw [source, fault.source_eq_none, Option.map_none]

/-- The causes below a cause, the nearest first. -/
def below (c : Cause) : List Cause :=
  match _h : c.source with
  | none => []
  | some next => next :: next.below
termination_by sizeOf c
decreasing_by
  rw [source_eq_none] at _h
  cases _h

/-- Nothing is below a cause. -/
theorem below_eq_nil (c : Cause) : c.below = [] := by
  rw [below]
  split
  · rfl
  case h_2 next h =>
    rw [source_eq_none] at h
    cases h

end Cause

/-- Why a probe failed. -/
inductive Failure where
  /-- The host's addresses cannot be found. -/
  | lookup (host : String) (fault : IoFault)
  /-- The host has no address. -/
  | noAddress (host : String)
  /-- No connection to an address. -/
  | connect (address : SocketAddress) (fault : IoFault)
  /-- Something took longer than the given number of milliseconds. -/
  | timedOut (timeout : UInt64)
  /-- There was no valid reply. -/
  | transport (fault : TransportFault)
  /-- The server refused. -/
  | exception (code : ExceptionCode)
  /-- The reply held no coil. -/
  | emptyResponse
  /-- There is no connection. -/
  | notConnected
  /-- The output cannot be written. -/
  | output (fault : IoFault)
deriving DecidableEq

namespace Failure

/-- The text of a failure. -/
def message : Failure → String
  | .lookup host fault => "failed to resolve " ++ host ++ ": " ++ fault.message
  | .noAddress host => "no address found for " ++ host
  | .connect address fault => "failed to connect to " ++ address.text ++ ": " ++ fault.message
  | .timedOut timeout => "timed out after " ++ toString timeout.toNat ++ " ms"
  | .transport fault => "transport: " ++ fault.message
  | .exception code => "exception: " ++ code.message
  | .emptyResponse => "empty response"
  | .notConnected => "not connected"
  | .output fault => fault.message

/-- The cause of a failure. A fault of the output is passed on as it is, so that the cause is what
lies below it. -/
def source : Failure → Option Cause
  | .lookup _ fault | .connect _ fault => some (.io fault)
  | .transport fault => some (.transport fault)
  | .output fault => fault.source.map .io
  | .noAddress _ | .timedOut _ | .exception _ | .emptyResponse | .notConnected => none

/-- The texts of the causes below a failure, the nearest first. -/
def chain (f : Failure) : List String :=
  match f.source with
  | none => []
  | some cause => (cause :: cause.below).map Cause.message

/-- There is one cause below a failure at most. -/
theorem chain_eq (f : Failure) : f.chain = (f.source.map Cause.message).toList := by
  unfold chain
  split
  · rename_i h
    rw [h]
    rfl
  · rename_i cause h
    rw [h, cause.below_eq_nil]
    rfl

@[simp] theorem chain_lookup (host : String) (fault : IoFault) :
    (lookup host fault).chain = [fault.message] := chain_eq _

@[simp] theorem chain_connect (address : SocketAddress) (fault : IoFault) :
    (connect address fault).chain = [fault.message] := chain_eq _

@[simp] theorem chain_transport (fault : TransportFault) :
    (transport fault).chain = [fault.message] := chain_eq _

@[simp] theorem chain_output (fault : IoFault) : (output fault).chain = [] := by
  rw [chain_eq, source, fault.source_eq_none]
  rfl

/-- The report of a failure to read the coil at `address` from `target`. -/
def report (address : UInt16) (target : String) (f : Failure) : String :=
  f.chain.foldl (fun text cause => text ++ ": " ++ cause)
    ("Failed to read coil " ++ toString address.toNat ++ " from " ++ target ++ ": " ++ f.message)

end Failure

end CoilProbe
