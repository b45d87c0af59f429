import FogWS.Driver
/-!
# `Connection.receive()` of the Python facade

The coroutine of `src/fogws/client.py`, on one asyncio loop, over the driver of `Driver.lean`.

| here                        | there                                                             |
|-----------------------------|-------------------------------------------------------------------|
| `Connection`                | the slots of `Connection` (client.py:25)                           |
| native receive `k`          | the `k`-th `self._native.receive()` and the driver's receive `k`    |
| `enter`                     | `receive` up to its suspension in `await` (client.py:50)           |
| `receiveEnds`               | the arms after the `await`, and `finally` (client.py:60)           |
| `outer`                     | the future that `asyncio.shield` makes for this call               |

Each label is one callback of the loop, or one step of the driver. `asyncio.shield` returns a done
future as it is, so that `await` goes on at once; otherwise it makes an outer future that takes the
result of the inner one in a later callback, unless it has been cancelled by then. `Task.cancel`
cancels the outer future, or, when that is done already, makes the next step of the task raise.

`_ensure_context` succeeds: the calls are made on the loop that created the connection, which is not
dropped while they run.
-/
namespace FogWS

/-- An asyncio future of a receive. -/
inductive Future where
  | pending
  | done (result : Except DriverError InboundMessage)
  | cancelled
  deriving Repr

/-- A `receive()` call. -/
inductive ClientLoc where
  | start  -- the coroutine has not run yet
  -- suspended in `await asyncio.shield(pending_receive)`
  | awaiting (native : Nat) (outer : Future) (mustCancel : Bool)
  | returned (message : InboundMessage)
  | raised (error : DriverError)
  | cancelled  -- ended by `CancelledError`
  | thrown  -- ended by an exception thrown into the coroutine
  deriving Repr

/-- What `await asyncio.shield(pending_receive)` comes to. -/
inductive AwaitEnd where
  | result (result : Except DriverError InboundMessage)
  | cancelled
  | thrown  -- `GeneratorExit` of `close()`, or any other exception thrown at the `await`

structure Connection where
  native : St  -- the driver behind `_native`
  futures : List Future  -- the futures of its receives
  pendingReceive : Option Nat
  receiveWaiterActive : Bool
  calls : List ClientLoc
  -- what native receives have produced, in order; no step reads it
  settled : List (Except DriverError InboundMessage)
  -- what calls have returned or raised of it, in order; no step reads it
  delivered : List (Except DriverError InboundMessage)

/-- `Connection.__init__` (client.py:31) on a new driver. -/
def connect (config : ConnectionConfig) : Connection := ⟨FogWS.start config, [], none, false, [], [], []⟩

def Connection.callAt (s : Connection) (i : Nat) (loc : ClientLoc) : Connection :=
  { s with calls := s.calls.set i loc }

def ClientLoc.ofResult : Except DriverError InboundMessage → ClientLoc
  | .ok message => .returned message
  | .error error => .raised error

/-- The end of `receive` after the `await` on native receive `k` (client.py:60). -/
def receiveEnds (s : Connection) (i k : Nat) : AwaitEnd → Connection
  -- `else` for a message, `except BaseException` for an error
  | .result result =>
    { s.callAt i (.ofResult result) with
      pendingReceive := none
      receiveWaiterActive := false
      delivered := s.delivered ++ [result] }
  -- `except asyncio.CancelledError`
  | .cancelled =>
    { s.callAt i .cancelled with
      pendingReceive := match s.futures[k]? with
        | some .cancelled => none
        | _ => s.pendingReceive
      receiveWaiterActive := false }
  -- `except BaseException`
  | .thrown =>
    { s.callAt i .thrown with
      pendingReceive := none
      receiveWaiterActive := false }

/-- `receive` from its start to its suspension, or to its end (client.py:50). -/
def enter (config : ConnectionConfig) (s : Connection) (i : Nat) : Option Connection :=
  -- `_claim_receive_waiter`
  if s.receiveWaiterActive then some (s.callAt i (.raised receiveBusy))
  else
    match s.pendingReceive with
    | none =>
      (step config s.native .callReceive).map fun native =>
        { s.callAt i (.awaiting s.futures.length .pending false) with
          native
          futures := s.futures ++ [.pending]
          pendingReceive := some s.futures.length
          receiveWaiterActive := true }
    | some k =>
      match s.futures[k]? with
      | some .pending =>
        some { s.callAt i (.awaiting k .pending false) with receiveWaiterActive := true }
      | some (.done result) => some (receiveEnds s i k (.result result))
      | some .cancelled => some (receiveEnds s i k .cancelled)
      | none => none

inductive ClientLabel where
  | native (l : Label)  -- a step of the driver
  | call  -- `connection.receive()` makes a coroutine
  | enter (i : Nat)  -- its first step
  | settle (k : Nat)  -- the result of native receive `k` reaches its future
  | propagate (i : Nat)  -- the callback of `asyncio.shield` for call `i`
  | cancel (i : Nat)  -- `Task.cancel` of the task that waits in call `i`
  | resume (i : Nat)  -- the task of call `i` goes on after its `await`
  | throw (i : Nat)  -- an exception is thrown into coroutine `i`
  | cancelNative (k : Nat)  -- somebody cancels the future of native receive `k`

/-- The driver's receives are started by `enter` only, and dropped only when their future is
cancelled; the connection holds the driver. -/
def Connection.allows (s : Connection) : Label → Bool
  | .callReceive | .dropDriver | .dropFields => false
  | .receive k .drop => match s.futures[k]? with
    | some .cancelled => true
    | _ => false
  | _ => true

def clientStep (config : ConnectionConfig) (s : Connection) : ClientLabel → Option Connection
  | .native l =>
    if s.allows l then (step config s.native l).map fun native => { s with native } else none
  | .call => some { s with calls := s.calls ++ [.start] }
  | .enter i =>
    match s.calls[i]? with
    | some .start => enter config s i
    | _ => none
  | .settle k =>
    match s.futures[k]?, s.native.receives[k]? with
    | some .pending, some (.returned result) =>
      some { s with
        futures := s.futures.set k (.done result)
        settled := s.settled ++ [result] }
    | _, _ => none
  | .propagate i =>
    match s.calls[i]? with
    | some (.awaiting k .pending mustCancel) =>
      match s.futures[k]? with
      | none | some .pending => none
      | some outer => some (s.callAt i (.awaiting k outer mustCancel))
    | _ => none
  | .cancel i =>
    match s.calls[i]? with
    | some .start => some (s.callAt i .cancelled)
    | some (.awaiting k .pending mustCancel) => some (s.callAt i (.awaiting k .cancelled mustCancel))
    | some (.awaiting k outer _) => some (s.callAt i (.awaiting k outer true))
    | _ => none
  | .resume i =>
    match s.calls[i]? with
    | some (.awaiting _ .pending _) => none
    | some (.awaiting k _ true) | some (.awaiting k .cancelled _) =>
      some (receiveEnds s i k .cancelled)
    | some (.awaiting k (.done result) false) => some (receiveEnds s i k (.result result))
    | _ => none
  | .throw i =>
    match s.calls[i]? with
    | some .start => some (s.callAt i .thrown)
    | some (.awaiting k _ _) => some (receiveEnds s i k .thrown)
    | _ => none
  | .cancelNative k =>
    match s.futures[k]? with
    | some .pending => some { s with futures := s.futures.set k .cancelled }
    | _ => none

end FogWS
