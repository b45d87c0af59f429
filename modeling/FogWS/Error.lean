/-!
# Errors and messages

`src/error.rs` (`CloseInfo`, `DriverError`), the messages of the WebSocket library that the driver
reads and writes, and the driver's own pure functions on them (`classify_close`, `close_result`).

A close code is kept as the `u16` the library converts it from and to; a WebSocket error is known by
its text and by whether it is `ConnectionClosed`, the only variant the driver tells apart.
-/
namespace FogWS

/-- `CloseInfo` (error.rs:4). -/
structure CloseInfo where
  code : Option UInt16
  initiatedByLocal : Bool
  reason : String
  deriving DecidableEq, Repr

/-- `CloseInfo::local_normal` (error.rs:11). -/
def CloseInfo.localNormal : CloseInfo := ⟨some 1000, true, ""⟩

/-- `CloseInfo::describe` (error.rs:19). -/
def CloseInfo.describe (info : CloseInfo) : String :=
  let code := match info.code with
    | none => "without a status code"
    | some value => toString value
  let side := if info.initiatedByLocal then "local endpoint" else "remote endpoint"
  "connection closed by " ++ side ++ " with code " ++ code

/-- `DriverError` (error.rs:34). -/
inductive DriverError where
  | closedError (info : CloseInfo)
  | closedOk (info : CloseInfo)
  | concurrency (message : String)
  | connectionFailed (message : String)
  | invalidUri (message : String)
  | resourceLimit (message : String)
  | transport (message : String)
  deriving DecidableEq, Repr

/-- `DriverError::ClosedOk(CloseInfo::local_normal())`. -/
def DriverError.localNormal : DriverError := .closedOk .localNormal

/-- `matches!(terminal, DriverError::ClosedOk(_))`. -/
def DriverError.isClosedOk : DriverError → Bool
  | .closedOk _ => true
  | _ => false

/-- `tungstenite::Error`. -/
inductive WsError where
  | connectionClosed
  | other (text : String)
  deriving DecidableEq, Repr

/-- `Display` of a WebSocket error. -/
def WsError.display : WsError → String
  | .connectionClosed => "Connection closed normally"
  | .other text => text

/-- What `reader.next()` gives if the peer's stream ends and no Close frame has come. -/
def WsError.reset : WsError :=
  .other "WebSocket protocol error: Connection reset without closing handshake"

/-- `tungstenite::protocol::frame::CloseFrame`. -/
structure CloseFrame where
  code : UInt16
  reason : String
  deriving DecidableEq, Repr

/-- `tungstenite::Message`; a raw frame is known by the length it reports. -/
inductive Message where
  | text (payload : String)
  | binary (payload : List UInt8)
  | ping (payload : List UInt8)
  | pong (payload : List UInt8)
  | close (frame : Option CloseFrame)
  | frame (length : Nat)
  deriving DecidableEq, Repr

/-- `Message::len`. -/
def Message.len : Message → Nat
  | .text payload => payload.utf8ByteSize
  | .binary payload | .ping payload | .pong payload => payload.length
  | .close none => 0
  | .close (some f) => f.reason.utf8ByteSize
  | .frame length => length

/-- `InboundMessage` (driver.rs:40). -/
inductive InboundMessage where
  | binary (payload : List UInt8)
  | text (payload : String)
  deriving DecidableEq, Repr

/-- The `match payload` of `queue_inbound` (driver.rs:555): only data messages are delivered. -/
def InboundMessage.ofMessage : Message → Option InboundMessage
  | .text payload => some (.text payload)
  | .binary payload => some (.binary payload)
  | .close _ | .ping _ | .pong _ | .frame _ => none

/-- `classify_close` (driver.rs:718): codes 1000 and 1001 are clean, and so is no frame at all. -/
def classifyClose (frame : Option CloseFrame) (initiatedByLocal : Bool) : DriverError :=
  match frame with
  | none => .closedOk ⟨none, initiatedByLocal, ""⟩
  | some frame =>
    let info : CloseInfo := ⟨some frame.code, initiatedByLocal, frame.reason⟩
    if frame.code = 1000 ∨ frame.code = 1001 then .closedOk info else .closedError info

/-- `close_result` (driver.rs:850). -/
def closeResult : DriverError → Except DriverError Unit
  | .closedOk _ => .ok ()
  | other => .error other

end FogWS
