import FogWS.State
/-!
# The steps of the API calls

`closeStep`, `abortStep`, `sendStep` and `receiveStep` give the atomic steps of `close` with
`begin_close`, `abort`, `try_admit_outbound` with `send_admitted`, and `receive`. The act `drop` is
the drop of the call's future, which happens only while it is parked at an await or not yet polled.
-/
namespace FogWS

inductive CallAct where
  | next
  | drop

inductive SendAct where
  | next
  /-- `send_admitted` runs with this message. -/
  | handOver (message : Message)
  | drop

/-! ## `close` -/

/-- `if let DriverState::Closed(error) = state.borrow().clone()`. -/
def DriverState.closedError : DriverState → Option DriverError
  | .closed error => some error
  | _ => none

/-- `close` (driver.rs:323) and `begin_close` (:353). -/
def closeStep (s : St) (i : Nat) : CloseLoc → CallAct → Option St
  | .start, .next =>
    some (s.closeAt i (match s.cells.state.value.closedError with
      -- `self.tasks_remaining` is never polled itself: its clone has seen version 0
      | some error => .waitTasks error (.check 0)
      | none => .guard))
  | .guard, .next => some { s.closeAt i .swap with cells := s.cells.guardNew }
  | .swap, .next =>
    some { s.closeAt i (if s.cells.closing then .earlyReturn else .transition) with
      cells.closing := true }
  | .transition, .next =>
    some { s.closeAt i (if s.cells.state.value = .opened then .signal else .earlyReturn) with
      cells := s.cells.publishClosing }
  | .signal, .next => some { s.closeAt i .arm with cells := s.cells.signalLocalClose }
  | .arm, .next =>
    some { s.closeAt i (if s.cells.closeTimeoutStarted then .earlyReturn else .spawn) with
      cells.closeTimeoutStarted := true }
  | .spawn, .next =>
    -- the guard moves into the spawned task
    some { s.closeAt i .subscribe with
      watchdogs := s.watchdogs ++ [.sleep (.check s.cells.state.version)] }
  | .earlyReturn, .next => some { s.closeAt i .subscribe with cells := s.cells.guardDrop }
  -- `self.state` is never polled itself: its clone has seen version 0
  | .subscribe, .next => some (s.closeAt i (.waitState (.check 0)))
  | .waitState wait, .next =>
    match wait.step s.cells.state DriverState.isTerminal with
    | none => none
    | some none =>
      s.cells.state.value.closedError.map fun error => s.closeAt i (.waitTasks error (.check 0))
    | some (some wait) => some (s.closeAt i (.waitState wait))
  | .waitTasks terminal wait, .next =>
    match wait.step s.cells.tasksRemaining (· == 0) with
    | none => none
    | some none => some (s.closeAt i (.returned (closeResult terminal)))
    | some (some wait) => some (s.closeAt i (.waitTasks terminal wait))
  | .start, .drop | .waitState (.changed _), .drop | .waitTasks _ (.changed _), .drop =>
    some (s.closeAt i .dropped)
  | _, _ => none

/-! ## `abort` -/

/-- The terminal error of `abort` (driver.rs:346). -/
def abandoned : DriverError := .transport "connection was abandoned"

/-- `abort` (driver.rs:344). -/
def abortStep (s : St) (i : Nat) : AbortLoc → Option St
  | .store => some { s.abortAt i .publish with cells.closing := true }
  | .publish => some { s.abortAt i .signal with cells := s.cells.publishTerminal abandoned }
  | .signal => some { s.abortAt i .abortReader with cells := s.cells.signalAbort }
  | .abortReader => some { s.abortAt i .abortWriter with cells.readerAbort := true }
  | .abortWriter => some { s.abortAt i .done with cells.writerAbort := true }
  | .done => none

/-! ## `try_admit_outbound` and `send_admitted` -/

/-- `validate_outbound_message` (driver.rs:303). -/
def validateOutboundMessage (config : ConnectionConfig) (state : DriverState) (size : Nat) :
    Except DriverError Unit :=
  match ensureOpen state with
  | .error error => .error error
  | .ok () =>
    if size > config.maxMessageSize then
      .error (.resourceLimit ("message contains " ++ toString size ++ " bytes; maximum is " ++
        toString config.maxMessageSize))
    else .ok ()

def unsupportedSize : DriverError :=
  .resourceLimit "message byte count exceeds the supported budget"

def bytesExhausted : DriverError :=
  .resourceLimit "outbound byte budget is exhausted; retry after an accepted send completes"

def queueFull : DriverError :=
  .resourceLimit "outbound item queue is full; retry after an accepted send completes"

def messageChanged : DriverError :=
  .transport "outbound message changed after capacity admission"

/-- `try_admit_outbound` (driver.rs:246) and `send_admitted` (:280). -/
def sendStep (config : ConnectionConfig) (s : St) (i : Nat) : SendLoc → SendAct → Option St
  | .start size, .next =>
    some (s.sendAt i (match validateOutboundMessage config s.cells.state.value size with
      | .error error => .refused (.validation s.cells.state.value) error
      | .ok () =>
        if size > u32Max then .refused .unsupported unsupportedSize else .acquire size))
  | .acquire size, .next =>
    some (if size ≤ s.outbound.budget then
        { s.sendAt i (.reserve size) with outbound.budget := s.outbound.budget - size }
      else s.sendAt i (.refused .bytesExhausted bytesExhausted))
  | .reserve size, .next =>
    some (match s.outbound.channel.tryReserve with
      | .ok channel => { s.sendAt i (.admitted size) with outbound.channel := channel }
      | .error .full => s.sendAt i (.giveBack size .queueFull queueFull)
      | .error .closed => s.sendAt i (.refuse size))
  | .refuse size, .next =>
    some (s.sendAt i (.giveBack size .channelClosed (terminalError s.cells.state.value)))
  | .giveBack size why error, .next =>
    some { s.sendAt i (.refused why error) with outbound.budget := s.outbound.budget + size }
  | .admitted size, .handOver message =>
    if message.len ≠ size then
      -- the admission is dropped with its permits
      some { s.sendAt i (.mismatched messageChanged) with
        outbound.budget := s.outbound.budget + size
        outbound.channel := s.outbound.channel.release }
    else
      let command : OutboundCommand := ⟨i, message, size⟩
      some { s.sendAt i .response with
        outbound :=
          { s.outbound.respond i .pending with channel := s.outbound.channel.push command }
        hist.handed := s.hist.handed ++ [command] }
  | .admitted size, .drop =>
    some { s.sendAt i .dropped with
      outbound.budget := s.outbound.budget + size
      outbound.channel := s.outbound.channel.release }
  | .response, .next =>
    match s.outbound.responses i with
    | .answered result => some (s.sendAt i (.returned result))
    | .dropped => some (s.sendAt i .terminal)
    | .pending | .unsent => none
  | .response, .drop => some (s.sendAt i .dropped)
  | .terminal, .next =>
    some (s.sendAt i (.returned (.error (terminalError s.cells.state.value))))
  | _, _ => none

/-! ## `receive` -/

def receiveBusy : DriverError :=
  .concurrency "only one receive operation may be active per connection"

/-- `receive` (driver.rs:314) under `ReceiveGuard` (:415). -/
def receiveStep (s : St) (i : Nat) : ReceiveLoc → CallAct → Option St
  | .start, .next =>
    some (if s.inbound.receiveActive then s.receiveAt i (.returned (.error receiveBusy))
      else { s.receiveAt i .lock with inbound.receiveActive := true })
  | .lock, .next =>
    if s.inbound.locked then none
    else some { s.receiveAt i .recv with inbound.locked := true }
  | .recv, .next =>
    match s.inbound.channel.recv with
    | some (envelope, channel) =>
      some { s.receiveAt i (.took envelope.message envelope.permit) with inbound.channel := channel }
    | none => if s.reader.loc.isDone then some (s.receiveAt i .terminal) else none
  | .took message permit, .next =>
    some { s.receiveAt i (.finish (.ok message)) with inbound.budget := s.inbound.budget + permit }
  | .terminal, .next =>
    some (s.receiveAt i (.finish (.error (terminalError s.cells.state.value))))
  | .finish result, .next =>
    some { s.receiveAt i (.returned result) with
      inbound.locked := false
      inbound.receiveActive := false
      hist.returned := match result with
        | .ok message => s.hist.returned ++ [message]
        | .error _ => s.hist.returned }
  | .start, .drop => some (s.receiveAt i .dropped)
  | .lock, .drop => some { s.receiveAt i .dropped with inbound.receiveActive := false }
  | .recv, .drop =>
    some { s.receiveAt i .dropped with
      inbound.locked := false
      inbound.receiveActive := false }
  | _, _ => none

end FogWS
