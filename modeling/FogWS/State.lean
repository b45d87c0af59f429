import FogWS.Cells
import FogWS.Config
import FogWS.Lib.Mpsc
/-!
# The state of a driver

Every task and every API call is a process that stands at a location; a location names the next
atomic step of its code. The processes are the reader task, the writer task, the watchdogs spawned
by `begin_close`, and one process for each call of `close`, `abort`, `try_admit_outbound` (with the
`send_admitted` that uses its admission) and `receive`. Calls are never forgotten: a finished call
keeps its result.

Locations marked *await* are the points where a task can be parked, aborted, or its future dropped.
-/
namespace FogWS

/-! ## Locations -/

/-- `run_reader` (driver.rs:438), `finish_peer_close` (:518), `finish_reader_failure` (:530) and
`queue_inbound` (:536). -/
inductive ReaderLoc where
  | unstarted  -- *await*: spawned, not yet polled
  | top  -- head of the loop: `*shutdown_receiver.borrow() == Abort`
  | select  -- *await*: `reader.next()` or `shutdown_receiver.changed()`
  | changed  -- `changed()` has fired; the signal is read again
  | queue (payload : Message)  -- `queue_inbound` entered with this payload
  | acquire (payload : Message)  -- *await*: `acquire_many_owned` or `shutdown.changed()`
  -- *await*: `inbound.send(envelope)` or `shutdown.changed()`; the envelope holds its permits
  | send (message : InboundMessage) (permit : Nat)
  | control  -- a ping or pong has been read
  | closeTaken (frame : Option CloseFrame)  -- a Close frame has been read; `closing` is loaded
  -- `closing` has been read as `initiatedByLocal`; it is stored
  | closeMark (frame : Option CloseFrame) (initiatedByLocal : Bool)
  | errTaken (error : WsError)  -- `reader.next()` gave an error; `closing` is loaded
  | ended  -- the loop is left by `break`; `closing` is loaded
  | finish (outcome : DriverError)  -- `finish_peer_close`: `publish_peer_closed`
  | finishSignal (outcome : DriverError)  -- `signal_peer_close`
  | finishSubscribe (outcome : DriverError)  -- `wait_for_terminal` subscribes
  | finishWait (outcome : DriverError) (wait : Wait)  -- *await*: `timeout(close_timeout, wait_for_terminal)`
  | finishExpired (outcome : DriverError)  -- the timeout has elapsed: `publish_terminal`
  | finishAbort  -- `writer_abort.abort()`
  | failure (terminal : DriverError)  -- `finish_reader_failure`: `publish_terminal`
  | failureSignal  -- `signal_abort`
  | failureAbort  -- `writer_abort.abort()`
  | leave  -- the body is about to drop its locals
  | returned  -- the locals (the read half, both senders) are gone; the task guard is still held
  | finished  -- the task guard is gone
  deriving DecidableEq, Repr

structure Reader where
  loc : ReaderLoc
  seen : Nat  -- the version of `shutdown` its receiver has marked as seen
  deriving Repr

/-- The reader's future is gone, and with it the read half and the inbound and control senders. -/
def ReaderLoc.isDone : ReaderLoc → Bool
  | .returned | .finished => true
  | _ => false

/-- Byte permits in the reader's hands. -/
def ReaderLoc.held : ReaderLoc → Nat
  | .send _ permit => permit
  | _ => 0

/-- `OutboundCommand` (driver.rs:50). The oneshot response is `Outbound.responses` at `id`. -/
structure OutboundCommand where
  id : Nat
  message : Message
  permit : Nat
  deriving DecidableEq, Repr

/-- `run_writer` (driver.rs:575) and `close_writer` (:661). -/
inductive WriterLoc where
  | unstarted  -- *await*: spawned, not yet polled
  | select  -- head of the loop: the biased `select!` polls `shutdown.changed()` first
  | events  -- *await*: `changed()` was pending, `next_writer_event` is polled
  | onShutdown  -- `changed()` has fired; the signal is read
  | flushStart  -- a `Flush` request has been taken
  | flush  -- *await*: `writer.flush()` for that request
  | sendStart (command : OutboundCommand)  -- a command has been taken
  | send (command : OutboundCommand)  -- *await*: `writer.send(command.message)`
  | answer (command : OutboundCommand)  -- the sink send succeeded: `command.response.send(Ok(()))`
  -- the end of the arm drops what is left of the command: its byte permit
  | release (command : OutboundCommand)
  | closeSend  -- *await*: `close_writer` sends the Close frame
  | handshake (wait : Wait)  -- *await*: `while *shutdown.borrow() == LocalClose { shutdown.changed().await }`
  | closeSignal  -- `if *shutdown.borrow() == Abort` after that loop
  | closeFlush  -- *await*: the last `writer.flush()`
  | closeOk  -- `close_writer` gave `Ok`: `peer_close_outcome`
  | closePublish (outcome : DriverError)  -- `publish_terminal` of the peer's outcome
  -- `publish_writer_failure`; the command is the one whose sink send failed
  | fail (error : DriverError) (command : Option OutboundCommand)
  -- `signal_abort`, with the outcome `publish_writer_failure` returned
  | failSignal (terminal : DriverError) (command : Option OutboundCommand)
  | failAnswer (terminal : DriverError) (command : OutboundCommand)  -- `command.response.send(Err(terminal))`
  -- the body is about to drop its locals (and the command whose send failed)
  | leave (command : Option OutboundCommand)
  | returned  -- the locals (the write half, both receivers) are gone; the task guard is still held
  | finished  -- the task guard is gone
  deriving DecidableEq, Repr

structure Writer where
  loc : WriterLoc
  seen : Nat  -- the version of `shutdown` its receiver has marked as seen
  deriving Repr

/-- The writer's future is gone, and with it the write half and the outbound and control receivers. -/
def WriterLoc.isDone : WriterLoc → Bool
  | .returned | .finished => true
  | _ => false

/-- The command in flight: taken from the queue, its byte permit not yet returned. -/
def WriterLoc.inFlight : WriterLoc → Option OutboundCommand
  | .sendStart c | .send c | .answer c | .release c | .failAnswer _ c => some c
  | .fail _ c | .failSignal _ c | .leave c => c
  | _ => none

/-- The task `begin_close` spawns (driver.rs:380). -/
inductive WatchdogLoc where
  | sleep (wait : Wait)  -- *await*: `close_timeout_expired`
  | expired  -- `publish_close_timeout`
  | abortReader
  | abortWriter
  | returned  -- the body is over; the task guard is still held
  | finished
  deriving DecidableEq, Repr

/-- `close` (driver.rs:323) and `begin_close` (:353). -/
inductive CloseLoc where
  | start  -- *await* (not yet polled): `self.state.borrow()`
  | guard  -- `begin_close`: `DriverTaskGuard::new`
  | swap  -- `closing.swap(true)`
  | transition  -- first close: `Open` to `Closing`
  | signal  -- `signal_local_close`
  | arm  -- `close_timeout_started.swap(true)`
  | spawn  -- `tokio::spawn`
  | earlyReturn  -- an early return of `begin_close` drops the guard
  | subscribe  -- `self.state.clone()`
  | waitState (wait : Wait)  -- *await*: the loop on the state
  | waitTasks (terminal : DriverError) (wait : Wait)  -- *await*: `wait_for_driver_tasks`
  | returned (result : Except DriverError Unit)
  | dropped
  deriving Repr

/-- `abort` (driver.rs:344). -/
inductive AbortLoc where
  | store
  | publish
  | signal
  | abortReader
  | abortWriter
  | done
  deriving DecidableEq, Repr

/-- Why `try_admit_outbound` refused, with the state `ensure_open` read. -/
inductive Refusal where
  | validation (observed : DriverState)
  | unsupported
  | bytesExhausted
  | queueFull
  | channelClosed
  deriving DecidableEq, Repr

/-- `try_admit_outbound` (driver.rs:246) and the `send_admitted` (:280) that uses its admission. -/
inductive SendLoc where
  | start (size : Nat)  -- `validate_outbound_message` and the `u32` conversion
  | acquire (size : Nat)  -- `try_acquire_many_owned`
  | reserve (size : Nat)  -- `try_reserve_owned`, with the byte permit in hand
  | refuse (size : Nat)  -- the channel was closed: `terminal_error`
  | giveBack (size : Nat) (why : Refusal) (error : DriverError)  -- the early return drops the byte permit
  | refused (why : Refusal) (error : DriverError)
  | admitted (size : Nat)  -- *await*: the `OutboundAdmission` is held; `send_admitted` has not run yet
  | mismatched (error : DriverError)  -- `send_admitted` refused a message of another size
  | response  -- *await*: `response_receiver.await`
  | terminal  -- the response sender was dropped: `terminal_error`
  | returned (result : Except DriverError Unit)
  | dropped
  deriving Repr

/-- `receive` (driver.rs:314). -/
inductive ReceiveLoc where
  | start  -- *await* (not yet polled): `ReceiveGuard::claim`
  | lock  -- *await*: `self.inbound.lock()`
  | recv  -- *await*: `inbound.recv()`
  -- an envelope has been taken; its permit is dropped at the end of the arm
  | took (message : InboundMessage) (permit : Nat)
  | terminal  -- the channel has ended: `terminal_error`
  | finish (result : Except DriverError InboundMessage)  -- the lock and the receive slot are given back
  | returned (result : Except DriverError InboundMessage)
  | dropped
  deriving Repr

/-- `Drop for ConnectionDriver` (driver.rs:409) runs `abort`, then the fields are dropped. -/
inductive DriverLoc where
  | alive
  | dropping
  | dropped
  deriving DecidableEq, Repr

/-! ## Buffers -/

/-- `InboundEnvelope` (driver.rs:45). -/
structure InboundEnvelope where
  message : InboundMessage
  permit : Nat
  deriving DecidableEq, Repr

structure Inbound where
  budget : Nat  -- free permits of `inbound_budget`
  channel : Mpsc InboundEnvelope
  receiveActive : Bool
  locked : Bool
  deriving Repr

inductive Response where
  | unsent  -- no command yet
  | pending
  | answered (result : Except DriverError Unit)
  | dropped  -- the sender was dropped without an answer
  deriving Repr

structure Outbound where
  budget : Nat  -- free permits of `outbound_budget`
  channel : Mpsc OutboundCommand
  responses : Nat → Response

inductive WriterControl where
  | flush
  deriving DecidableEq, Repr

/-- What the reader took when it took a Close frame. -/
structure PeerClose where
  frame : Option CloseFrame
  live : Bool  -- the state was not yet `Closed` at that moment
  initiatedByLocal : Option Bool  -- the `closing` flag the reader read afterwards
  deriving DecidableEq, Repr

/-- What has happened so far; no step of the driver reads it. -/
structure History where
  read : List InboundMessage  -- data messages the reader took from the transport, in order
  returned : List InboundMessage  -- messages returned by successful `receive` calls, in order
  handed : List OutboundCommand  -- commands handed over by `send_admitted`, in order
  passed : List OutboundCommand  -- commands whose message the writer passed to the sink, in order
  succeeded : List OutboundCommand  -- those of them whose sink send succeeded, in order
  closeFrames : Nat  -- Close frames the writer passed to the sink
  peerClose : Option PeerClose
  deriving Repr

structure St where
  cells : Cells
  reader : Reader
  writer : Writer
  watchdogs : List WatchdogLoc
  closes : List CloseLoc
  aborts : List AbortLoc
  sends : List SendLoc
  receives : List ReceiveLoc
  driver : DriverLoc
  inbound : Inbound
  outbound : Outbound
  control : Mpsc WriterControl
  hist : History

/-- `ConnectionDriver::start` (driver.rs:130): both tasks are spawned, each with its guard. -/
def start (config : ConnectionConfig) : St where
  cells := Cells.guardNew <| Cells.guardNew {
    closing := false
    closeTimeoutStarted := false
    state := .channel .opened
    shutdown := .channel .running
    tasksRemaining := .channel 0
    readerAbort := false
    writerAbort := false }
  reader := ⟨.unstarted, 0⟩
  writer := ⟨.unstarted, 0⟩
  watchdogs := []
  closes := []
  aborts := []
  sends := []
  receives := []
  driver := .alive
  inbound := ⟨config.maxBufferedBytes, .channel config.maxQueue, false, false⟩
  outbound := ⟨config.maxBufferedBytes, .channel config.maxQueue, fun _ => .unsent⟩
  control := .channel 4
  hist := ⟨[], [], [], [], [], 0, none⟩

namespace St

def readerAt (s : St) (loc : ReaderLoc) : St := { s with reader.loc := loc }

def writerAt (s : St) (loc : WriterLoc) : St := { s with writer.loc := loc }

def watchdogAt (s : St) (i : Nat) (loc : WatchdogLoc) : St :=
  { s with watchdogs := s.watchdogs.set i loc }

def closeAt (s : St) (i : Nat) (loc : CloseLoc) : St := { s with closes := s.closes.set i loc }

def abortAt (s : St) (i : Nat) (loc : AbortLoc) : St := { s with aborts := s.aborts.set i loc }

def sendAt (s : St) (i : Nat) (loc : SendLoc) : St := { s with sends := s.sends.set i loc }

def receiveAt (s : St) (i : Nat) (loc : ReceiveLoc) : St :=
  { s with receives := s.receives.set i loc }

end St

def Outbound.respond (o : Outbound) (id : Nat) (r : Response) : Outbound :=
  { o with responses := Function.update o.responses id r }

/-- Drop every command of `cs`: the response senders and the byte permits. -/
def Outbound.discard (o : Outbound) (cs : List OutboundCommand) : Outbound :=
  { o with
    budget := o.budget + (cs.map (·.permit)).sum
    responses := fun id =>
      match o.responses id with
      | .pending => if cs.any (·.id == id) then .dropped else .pending
      | r => r }

end FogWS
