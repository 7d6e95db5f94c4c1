import CoilProbe.Modbus.Frame
import CoilProbe.Modbus.Response.Printer
import CoilProbe.Net.Fault

/-!
# Answers to a request

What a client learns from asking for a coil. A frame answers a request if it carries the header of
the request and a reply to its function; any other frame is a fault.
-/

namespace CoilProbe

/-- Why a request got no valid reply although something happened. -/
inductive TransportFault where
  /-- Writing or reading failed. -/
  | io (fault : IoFault)
  /-- A frame was malformed. -/
  | frame (fault : FrameFault)
  /-- The stream ended inside a frame. -/
  | bytesRemaining
  /-- A frame answered another request. -/
  | headers (sent got : Header) (reply : Reply)
  /-- A frame answered another function. -/
  | function (reply : Reply)
deriving DecidableEq

/-- The text of a fault. -/
def TransportFault.message : TransportFault → String
  | .io fault => fault.message
  | .frame fault => fault.message
  | .bytesRemaining => "bytes remaining on stream"
  | .headers sent got reply =>
    "mismatching headers: expected/request = " ++ sent.text ++ ", actual/response = " ++ got.text
      ++ " " ++ reply.text
  | .function reply => "mismatching function codes: 1 " ++ reply.text

/-- The fault below a fault. One of input or output is passed on as it is, so that what is below is
what lies below that one. -/
def TransportFault.source : TransportFault → Option IoFault
  | .io fault => fault.source
  | .frame _ | .bytesRemaining | .headers _ _ _ | .function _ => none

theorem TransportFault.source_eq_none (fault : TransportFault) : fault.source = none := by
  cases fault with
  | io fault => exact fault.source_eq_none
  | frame | bytesRemaining | headers | function => rfl

/-- What comes of a request for coils. -/
inductive Answer where
  /-- The server sent coils. -/
  | coils (values : List Bool)
  /-- The server refused. -/
  | exception (code : ExceptionCode)
  /-- There was no valid reply. -/
  | fault (fault : TransportFault)
  /-- Nothing happened in time. -/
  | silence
deriving DecidableEq

/-- What a frame says to a request with the header `sent`. -/
def Frame.answer (sent : Header) (f : Frame) : Answer :=
  if f.header ≠ sent then .fault (.headers sent f.header f.reply)
  else match f.reply with
    | .answer (.readCoils values) => .coils values
    | .answer response => .fault (.function (.answer response))
    | .refusal e =>
      if e.function = .readCoils then .exception e.exception else .fault (.function (.refusal e))

end CoilProbe
