import FogWS.State
/-!
# The steps of the tasks

`readerStep`, `writerStep` and `watchdogStep` give the atomic steps of `run_reader`, `run_writer` and
the watchdog. An act says which of the things that can happen at a location happens; where a location
has a single continuation the act is `next`. Results of the transport (an item of the stream, the end
of a flush or of a sink send) come from outside and are acts of their own, so are the timers and the
abort of a task at an await.
-/
namespace FogWS

inductive ReaderAct where
  | next
  /-- `reader.next()` is ready. -/
  | item (item : Option (Except WsError Message))
  /-- The `shutdown.changed()` arm of a `select!`. -/
  | changed
  /-- The close timeout elapses. -/
  | timer
  /-- The runtime drops the aborted future. -/
  | kill

inductive WriterAct where
  | next
  | changed
  /-- `control.recv()` is ready. -/
  | control
  /-- `outbound.recv()` is ready. -/
  | outbound
  /-- The flush or the sink send under way succeeds. -/
  | sinkOk
  /-- The flush or the sink send under way fails. -/
  | sinkErr (error : WsError)
  | kill

inductive WatchdogAct where
  | next
  | timer

/-! ## The reader -/

/-- The `match result` of `run_reader` (driver.rs:462). -/
def readerItem (s : St) (item : Option (Except WsError Message)) : St :=
  match item with
  | none => s.readerAt .ended
  | some (.error error) => s.readerAt (.errTaken error)
  | some (.ok (.text p)) =>
    { s.readerAt (.queue (.text p)) with hist.read := s.hist.read ++ [.text p] }
  | some (.ok (.binary p)) =>
    { s.readerAt (.queue (.binary p)) with hist.read := s.hist.read ++ [.binary p] }
  | some (.ok (.close frame)) =>
    { s.readerAt (.closeTaken frame) with
      hist.peerClose := some ⟨frame, !s.cells.state.value.isTerminal, none⟩ }
  | some (.ok (.ping _)) | some (.ok (.pong _)) => s.readerAt .control
  | some (.ok (.frame _)) => s.readerAt .top

/-- The terminal error after `reader.next()` gave an error (driver.rs:487). -/
def receiveFailure (closing : Bool) (error : WsError) : DriverError :=
  if closing ∧ error = .connectionClosed then .localNormal
  else .transport ("WebSocket receive failed: " ++ error.display)

/-- The terminal error after the loop of `run_reader` (driver.rs:506). -/
def streamEnd (closing : Bool) : DriverError :=
  if closing then .localNormal else .transport "WebSocket transport ended without a close frame"

/-- `finish_peer_close` for a clean outcome, else `finish_reader_failure` (driver.rs:496, :511). -/
def ReaderLoc.conclude (terminal : DriverError) : ReaderLoc :=
  if terminal.isClosedOk then .finish terminal else .failure terminal

/-- `wait_for_terminal_state` (driver.rs:818) waits for this. -/
abbrev isTerminalState : DriverState → Bool := DriverState.isTerminal

/-- The reader's locals are dropped: its permits go back and its senders are gone. -/
def dropReader (s : St) : St :=
  { s with
    reader.loc := .returned
    inbound.budget := s.inbound.budget + s.reader.loc.held }

/-- The `shutdown.changed()` arm: enabled on an unseen version, which it marks as seen. -/
def readerChanged (s : St) (loc : ReaderLoc) (budget : Nat) : Option St :=
  if s.reader.seen < s.cells.shutdown.version then
    some { s with
      reader := ⟨loc, s.cells.shutdown.version⟩
      inbound.budget := s.inbound.budget + budget }
  else none

def readerStep (s : St) : ReaderLoc → ReaderAct → Option St
  | .unstarted, .next => some (s.readerAt .top)
  | .top, .next =>
    some (s.readerAt (if s.cells.shutdown.value = .abort then .leave else .select))
  | .select, .item item => some (readerItem s item)
  | .select, .changed => readerChanged s .changed 0
  | .changed, .next =>
    some (s.readerAt (if s.cells.shutdown.value = .abort then .leave else .top))
  -- `queue_inbound`; every `Ok(())` of it continues the loop, every `Err(())` breaks it
  | .queue payload, .next =>
    if s.cells.shutdown.value ≠ .running then some (s.readerAt .top)
    else if payload.len > u32Max then some (s.readerAt .ended)
    else some (s.readerAt (.acquire payload))
  | .acquire payload, .next =>
    if payload.len ≤ s.inbound.budget then
      let s := { s with inbound.budget := s.inbound.budget - payload.len }
      match InboundMessage.ofMessage payload with
      | some message => some (s.readerAt (.send message payload.len))
      | none =>
        some { s.readerAt .ended with inbound.budget := s.inbound.budget + payload.len }
    else none
  | .acquire _, .changed => readerChanged s .top 0
  | .send message permit, .next =>
    match s.inbound.channel.trySend ⟨message, permit⟩ with
    | .ok channel => some { s.readerAt .top with inbound.channel := channel }
    | .error .full => none
    | .error .closed =>
      some { s.readerAt .ended with inbound.budget := s.inbound.budget + permit }
  | .send _ permit, .changed => readerChanged s .top permit
  | .control, .next =>
    -- `let _ = control.try_send(Flush)`
    some { s.readerAt .top with
      control := match s.control.trySend .flush with
        | .ok control => control
        | .error _ => s.control }
  | .closeTaken frame, .next =>
    some { s.readerAt (.closeMark frame s.cells.closing) with
      hist.peerClose := s.hist.peerClose.map fun p =>
        { p with initiatedByLocal := some s.cells.closing } }
  | .closeMark frame initiatedByLocal, .next =>
    some { s.readerAt (.finish (classifyClose frame initiatedByLocal)) with cells.closing := true }
  | .errTaken error, .next =>
    some (s.readerAt (.conclude (receiveFailure s.cells.closing error)))
  | .ended, .next => some (s.readerAt (.conclude (streamEnd s.cells.closing)))
  | .finish outcome, .next =>
    some { s.readerAt (.finishSignal outcome) with cells := s.cells.publishPeerClosed outcome }
  | .finishSignal outcome, .next =>
    some { s.readerAt (.finishSubscribe outcome) with cells := s.cells.signalPeerClose }
  | .finishSubscribe outcome, .next =>
    some (s.readerAt (.finishWait outcome (.check s.cells.state.version)))
  | .finishWait outcome wait, .next =>
    match wait.step s.cells.state isTerminalState with
    | none => none
    | some none => some (s.readerAt .leave)
    | some (some wait) => some (s.readerAt (.finishWait outcome wait))
  | .finishWait outcome (.changed _), .timer => some (s.readerAt (.finishExpired outcome))
  | .finishExpired outcome, .next =>
    some { s.readerAt .finishAbort with cells := s.cells.publishTerminal outcome }
  | .finishAbort, .next => some { s.readerAt .leave with cells.writerAbort := true }
  | .failure terminal, .next =>
    some { s.readerAt .failureSignal with cells := s.cells.publishTerminal terminal }
  | .failureSignal, .next => some { s.readerAt .failureAbort with cells := s.cells.signalAbort }
  | .failureAbort, .next => some { s.readerAt .leave with cells.writerAbort := true }
  | .leave, .next => some (dropReader s)
  | .returned, .next => some { s.readerAt .finished with cells := s.cells.guardDrop }
  | .unstarted, .kill | .select, .kill | .acquire _, .kill | .send _ _, .kill
  | .finishWait _ (.changed _), .kill => if s.cells.readerAbort then some (dropReader s) else none
  | _, _ => none

/-! ## The writer -/

/-- The writer's locals are dropped: the command in flight and what is queued, both receivers. -/
def dropWriter (s : St) : St :=
  { s with
    writer.loc := .returned
    outbound :=
      { s.outbound.discard (s.writer.loc.inFlight.toList ++ s.outbound.channel.queue) with
        channel := s.outbound.channel.dropReceiver }
    control := s.control.dropReceiver }

/-- `shutdown.changed()` is ready. -/
def writerChanged (s : St) : St :=
  { s with writer := ⟨.onShutdown, s.cells.shutdown.version⟩ }

/-- `close_writer` on the signal the loop has read (driver.rs:594, :661). -/
def writerOnShutdown (s : St) : St :=
  match s.cells.shutdown.value with
  | .running => s.writerAt .select
  | .abort => s.writerAt (.leave none)
  | .localClose => { s.writerAt .closeSend with hist.closeFrames := s.hist.closeFrames + 1 }
  | .peerClose => s.writerAt .closeFlush

/-- The loop of `close_writer` (driver.rs:677) runs while this is false. -/
def handshakeOver (signal : ShutdownSignal) : Bool := signal ≠ .localClose

def closeFailed (error : WsError) : DriverError :=
  .transport ("WebSocket close failed: " ++ error.display)

def writerStep (s : St) : WriterLoc → WriterAct → Option St
  | .unstarted, .next => some (s.writerAt .select)
  | .select, .next =>
    some (if s.writer.seen < s.cells.shutdown.version then writerChanged s
      else s.writerAt .events)
  | .events, .changed =>
    if s.writer.seen < s.cells.shutdown.version then some (writerChanged s) else none
  | .onShutdown, .next => some (writerOnShutdown s)
  -- `next_writer_event`: a closed channel answers `None` once it is empty
  | .events, .control =>
    match s.control.recv with
    | some (.flush, control) => some { s.writerAt .flushStart with control := control }
    | none =>
      if s.reader.loc.isDone then
        some (s.writerAt (.fail (.transport "connection reader stopped unexpectedly") none))
      else none
  | .events, .outbound =>
    match s.outbound.channel.recv with
    | some (command, channel) =>
      some { s.writerAt (.sendStart command) with outbound.channel := channel }
    | none => if s.driver = .dropped then some (s.writerAt (.leave none)) else none
  | .flushStart, .next => some (s.writerAt .flush)
  | .flush, .sinkOk => some (s.writerAt .select)
  | .flush, .sinkErr _ =>
    some (s.writerAt (.fail (.transport "WebSocket control flush failed") none))
  | .sendStart command, .next =>
    some { s.writerAt (.send command) with hist.passed := s.hist.passed ++ [command] }
  | .send command, .sinkOk =>
    some { s.writerAt (.answer command) with hist.succeeded := s.hist.succeeded ++ [command] }
  | .send command, .sinkErr error =>
    some (s.writerAt
      (.fail (.transport ("WebSocket send failed: " ++ error.display)) (some command)))
  | .answer command, .next =>
    some { s.writerAt (.release command) with
      outbound := s.outbound.respond command.id (.answered (.ok ())) }
  | .release command, .next =>
    some { s.writerAt .select with outbound.budget := s.outbound.budget + command.permit }
  | .closeSend, .sinkOk => some (s.writerAt (.handshake (.check s.writer.seen)))
  | .closeSend, .sinkErr error => some (s.writerAt (.fail (closeFailed error) none))
  | .handshake wait, .next =>
    match wait.step s.cells.shutdown handshakeOver with
    | none => none
    | some none => some (s.writerAt .closeSignal)
    | some (some wait) => some (s.writerAt (.handshake wait))
  | .closeSignal, .next =>
    some (s.writerAt (if s.cells.shutdown.value = .abort then .closeOk else .closeFlush))
  | .closeFlush, .sinkOk => some (s.writerAt .closeOk)
  | .closeFlush, .sinkErr error => some (s.writerAt (.fail (closeFailed error) none))
  | .closeOk, .next =>
    some (s.writerAt (match peerCloseOutcome s.cells.state.value with
      | some outcome => .closePublish outcome
      | none => .leave none))
  | .closePublish outcome, .next =>
    some { s.writerAt (.leave none) with cells := s.cells.publishTerminal outcome }
  | .fail error command, .next =>
    let terminal := Cells.writerFailureOutcome s.cells.state.value error
    some { s.writerAt (.failSignal terminal command) with
      cells := s.cells.publishWriterFailure error }
  | .failSignal terminal command, .next =>
    let loc : WriterLoc := match command with
      | some command => .failAnswer terminal command
      | none => .leave none
    some { s.writerAt loc with cells := s.cells.signalAbort }
  | .failAnswer terminal command, .next =>
    some { s.writerAt (.leave (some command)) with
      outbound := s.outbound.respond command.id (.answered (.error terminal)) }
  | .leave _, .next => some (dropWriter s)
  | .returned, .next => some { s.writerAt .finished with cells := s.cells.guardDrop }
  | .unstarted, .kill | .events, .kill | .flush, .kill | .send _, .kill | .closeSend, .kill
  | .handshake (.changed _), .kill | .closeFlush, .kill =>
    if s.cells.writerAbort then some (dropWriter s) else none
  | _, _ => none

/-! ## The watchdog -/

def watchdogStep (s : St) (i : Nat) : WatchdogLoc → WatchdogAct → Option St
  | .sleep wait, .next =>
    match wait.step s.cells.state isTerminalState with
    | none => none
    | some none => some (s.watchdogAt i .returned)
    | some (some wait) => some (s.watchdogAt i (.sleep wait))
  | .sleep _, .timer => some (s.watchdogAt i .expired)
  | .expired, .next =>
    some { s.watchdogAt i .abortReader with cells := s.cells.publishCloseTimeout }
  | .abortReader, .next => some { s.watchdogAt i .abortWriter with cells.readerAbort := true }
  | .abortWriter, .next => some { s.watchdogAt i .returned with cells.writerAbort := true }
  | .returned, .next => some { s.watchdogAt i .finished with cells := s.cells.guardDrop }
  | _, _ => none

end FogWS
