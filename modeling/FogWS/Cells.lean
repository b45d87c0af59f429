import FogWS.Error
import FogWS.Lib.Watch
/-!
# The cells the tasks share

| here | there |
| --- | --- |
| `DriverState`, `ShutdownSignal` | driver.rs:26, driver.rs:93 |
| `Cells` | the `watch` channels, atomics and abort handles of `ConnectionDriver` (driver.rs:112) |
| `publish*` | driver.rs:702-776 |
| `signal*` | driver.rs:778-812 |
| `ensureOpen`, `terminalError` | driver.rs:390, driver.rs:398 |

Every function below is one atomic step: `send_if_modified` runs its closure under the channel's
lock. `Cells.Evolves` is the order all of them respect: the state and the signal only move forward,
no flag is ever taken back, and no modification of a watch channel is lost.
-/
namespace FogWS

/-- `DriverState` (driver.rs:26). -/
inductive DriverState where
  | closed (error : DriverError)
  | closing
  | opened
  | peerClosed (outcome : DriverError)
  deriving DecidableEq, Repr

/-- `ShutdownSignal` (driver.rs:93). -/
inductive ShutdownSignal where
  | abort
  | localClose
  | peerClose
  | running
  deriving DecidableEq, Repr

/-- `DriverState::is_terminal` (driver.rs:34). -/
def DriverState.isTerminal : DriverState → Bool
  | .closed _ => true
  | _ => false

/-- `Open`, `Closing`, `PeerClosed`, `Closed`. -/
def DriverState.rank : DriverState → Nat
  | .opened => 0
  | .closing => 1
  | .peerClosed _ => 2
  | .closed _ => 3

/-- `Running`, `LocalClose`, `PeerClose`, `Abort`. -/
def ShutdownSignal.rank : ShutdownSignal → Nat
  | .running => 0
  | .localClose => 1
  | .peerClose => 2
  | .abort => 3

/-- `b` is `a`, or strictly later in the order of the life cycle. -/
def DriverState.Forward (a b : DriverState) : Prop := a = b ∨ a.rank < b.rank

/-- `b` is `a`, or strictly later in the order of the signals. -/
def ShutdownSignal.Forward (a b : ShutdownSignal) : Prop := a = b ∨ a.rank < b.rank

/-! ## What a closed or closing state answers -/

/-- `ensure_open` (driver.rs:390). -/
def ensureOpen : DriverState → Except DriverError Unit
  | .opened => .ok ()
  | .closing => .error .localNormal
  | .closed error | .peerClosed error => .error error

/-- `terminal_error` (driver.rs:398). -/
def terminalError : DriverState → DriverError
  | .closed error | .peerClosed error => error
  | .closing => .localNormal
  | .opened => .transport "connection driver stopped unexpectedly"

/-- `peer_close_outcome` (driver.rs:694). -/
def peerCloseOutcome : DriverState → Option DriverError
  | .peerClosed outcome => some outcome
  | .closed _ | .closing | .opened => none

/-! ## The shared cells -/

structure Cells where
  closing : Bool
  closeTimeoutStarted : Bool
  state : Watch DriverState
  shutdown : Watch ShutdownSignal
  tasksRemaining : Watch Nat
  /-- `reader_abort.abort()` has been called. -/
  readerAbort : Bool
  /-- `writer_abort.abort()` has been called. -/
  writerAbort : Bool
  deriving Repr

namespace Cells

/-- `publish_writer_failure` (driver.rs:702), the cell part. -/
def publishWriterFailure (c : Cells) (error : DriverError) : Cells :=
  { c with state := c.state.sendIfModified fun
      | .closed _ => none
      | .peerClosed outcome => some (.closed outcome)
      | .closing | .opened => some (.closed error) }

/-- `publish_writer_failure` (driver.rs:702), the error it returns. -/
def writerFailureOutcome (state : DriverState) (error : DriverError) : DriverError :=
  match state with
  | .closed outcome | .peerClosed outcome => outcome
  | .closing | .opened => error

/-- `publish_terminal` (driver.rs:739). -/
def publishTerminal (c : Cells) (terminal : DriverError) : Cells :=
  { c with state := c.state.sendIfModified fun s =>
      if s.isTerminal then none else some (.closed terminal) }

/-- `publish_peer_closed` (driver.rs:750). -/
def publishPeerClosed (c : Cells) (outcome : DriverError) : Cells :=
  { c with state := c.state.sendIfModified fun
      | .closed _ | .peerClosed _ => none
      | .closing | .opened => some (.peerClosed outcome) }

/-- `publish_close_timeout` (driver.rs:761). -/
def publishCloseTimeout (c : Cells) : Cells :=
  { c with state := c.state.sendIfModified fun
      | .closed _ => none
      | .peerClosed outcome => some (.closed outcome)
      | .closing | .opened => some (.closed (.transport "WebSocket close timed out")) }

/-- The transition of `begin_close` (driver.rs:359). -/
def publishClosing (c : Cells) : Cells :=
  { c with state := c.state.sendIfModified fun
      | .opened => some .closing
      | _ => none }

/-- `signal_abort` (driver.rs:778). -/
def signalAbort (c : Cells) : Cells :=
  { c with shutdown := c.shutdown.sendIfModified fun s => if s = .abort then none else some .abort }

/-- `signal_local_close` (driver.rs:789). -/
def signalLocalClose (c : Cells) : Cells :=
  { c with shutdown := c.shutdown.sendIfModified fun s =>
      if s = .running then some .localClose else none }

/-- `signal_peer_close` (driver.rs:800). -/
def signalPeerClose (c : Cells) : Cells :=
  { c with shutdown := c.shutdown.sendIfModified fun
      | .running | .localClose => some .peerClose
      | .peerClose | .abort => none }

/-- `DriverTaskGuard::new` (driver.rs:67). -/
def guardNew (c : Cells) : Cells :=
  { c with tasksRemaining := c.tasksRemaining.sendModify (· + 1) }

/-- `DriverTaskGuard::drop` (driver.rs:76); `saturating_sub` is subtraction on naturals. -/
def guardDrop (c : Cells) : Cells :=
  { c with tasksRemaining := c.tasksRemaining.sendModify (· - 1) }

end Cells

end FogWS
