import FogWS.Calls
import FogWS.Tasks
/-!
# The step functions as rules

One relation for each step function, with a named rule for every way through it, and the inversion lemma
that says that every step is by one of them. A proof about the steps of a process is a case analysis over
these rules; only this file follows the branches of the functions.

`awaits` marks the locations where an aborted task is dropped.
-/
namespace FogWS

variable {config : ConnectionConfig} {s s' : St} {i : Nat}

/-! ## The reader -/

/-- The reader is suspended here, or not yet started: an abort takes effect. -/
def ReaderLoc.awaits : ReaderLoc → Bool
  | .unstarted | .select | .acquire _ | .send _ _ | .finishWait _ (.changed _) => true
  | _ => false

/-- `run_reader` (driver.rs:438), `queue_inbound` (:536), and the two ways to finish (:518, :530). -/
inductive ReaderRule (s : St) : ReaderLoc → ReaderAct → St → Prop
  | unstarted : ReaderRule s .unstarted .next (s.readerAt .top)
  | topAbort (h : s.cells.shutdown.value = .abort) : ReaderRule s .top .next (s.readerAt .leave)
  | top (h : s.cells.shutdown.value ≠ .abort) : ReaderRule s .top .next (s.readerAt .select)
  -- the items of the stream
  | streamEnd : ReaderRule s .select (.item none) (s.readerAt .ended)
  | streamError (error : WsError) :
      ReaderRule s .select (.item (some (.error error))) (s.readerAt (.errTaken error))
  | text (p : String) : ReaderRule s .select (.item (some (.ok (.text p))))
      { s.readerAt (.queue (.text p)) with hist.read := s.hist.read ++ [.text p] }
  | binary (p : List UInt8) : ReaderRule s .select (.item (some (.ok (.binary p))))
      { s.readerAt (.queue (.binary p)) with hist.read := s.hist.read ++ [.binary p] }
  | closeFrame (frame : Option CloseFrame) : ReaderRule s .select (.item (some (.ok (.close frame))))
      { s.readerAt (.closeTaken frame) with
        hist.peerClose := some ⟨frame, !s.cells.state.value.isTerminal, none⟩ }
  | ping (p : List UInt8) : ReaderRule s .select (.item (some (.ok (.ping p)))) (s.readerAt .control)
  | pong (p : List UInt8) : ReaderRule s .select (.item (some (.ok (.pong p)))) (s.readerAt .control)
  | frame (n : Nat) : ReaderRule s .select (.item (some (.ok (.frame n)))) (s.readerAt .top)
  | selectChanged (h : s.reader.seen < s.cells.shutdown.version) : ReaderRule s .select .changed
      { s with reader := ⟨.changed, s.cells.shutdown.version⟩ }
  | changedAbort (h : s.cells.shutdown.value = .abort) :
      ReaderRule s .changed .next (s.readerAt .leave)
  | changed (h : s.cells.shutdown.value ≠ .abort) : ReaderRule s .changed .next (s.readerAt .top)
  -- `queue_inbound`
  | queueStopped (payload : Message) (h : s.cells.shutdown.value ≠ .running) :
      ReaderRule s (.queue payload) .next (s.readerAt .top)
  | queueTooLong (payload : Message) (h : s.cells.shutdown.value = .running)
      (hlen : payload.len > u32Max) : ReaderRule s (.queue payload) .next (s.readerAt .ended)
  | queue (payload : Message) (h : s.cells.shutdown.value = .running) (hlen : payload.len ≤ u32Max) :
      ReaderRule s (.queue payload) .next (s.readerAt (.acquire payload))
  | acquire (payload : Message) (message : InboundMessage) (h : payload.len ≤ s.inbound.budget)
      (hm : InboundMessage.ofMessage payload = some message) : ReaderRule s (.acquire payload) .next
      { s.readerAt (.send message payload.len) with inbound.budget := s.inbound.budget - payload.len }
  | acquireOther (payload : Message) (h : payload.len ≤ s.inbound.budget)
      (hm : InboundMessage.ofMessage payload = none) : ReaderRule s (.acquire payload) .next
      { s.readerAt .ended with inbound.budget := s.inbound.budget - payload.len + payload.len }
  | acquireChanged (payload : Message) (h : s.reader.seen < s.cells.shutdown.version) :
      ReaderRule s (.acquire payload) .changed { s with reader := ⟨.top, s.cells.shutdown.version⟩ }
  | send (message : InboundMessage) (permit : Nat) (channel : Mpsc InboundEnvelope)
      (h : s.inbound.channel.trySend ⟨message, permit⟩ = .ok channel) :
      ReaderRule s (.send message permit) .next { s.readerAt .top with inbound.channel := channel }
  | sendClosed (message : InboundMessage) (permit : Nat)
      (h : s.inbound.channel.trySend ⟨message, permit⟩ = .error .closed) :
      ReaderRule s (.send message permit) .next
        { s.readerAt .ended with inbound.budget := s.inbound.budget + permit }
  | sendChanged (message : InboundMessage) (permit : Nat)
      (h : s.reader.seen < s.cells.shutdown.version) : ReaderRule s (.send message permit) .changed
      { s with
        reader := ⟨.top, s.cells.shutdown.version⟩
        inbound.budget := s.inbound.budget + permit }
  | control : ReaderRule s .control .next
      { s.readerAt .top with
        control := match s.control.trySend .flush with
          | .ok control => control
          | .error _ => s.control }
  -- the end of the loop
  | closeTaken (frame : Option CloseFrame) : ReaderRule s (.closeTaken frame) .next
      { s.readerAt (.closeMark frame s.cells.closing) with
        hist.peerClose := s.hist.peerClose.map fun p =>
          { p with initiatedByLocal := some s.cells.closing } }
  | closeMark (frame : Option CloseFrame) (initiatedByLocal : Bool) :
      ReaderRule s (.closeMark frame initiatedByLocal) .next
        { s.readerAt (.finish (classifyClose frame initiatedByLocal)) with cells.closing := true }
  | errTaken (error : WsError) : ReaderRule s (.errTaken error) .next
      (s.readerAt (.conclude (receiveFailure s.cells.closing error)))
  | ended : ReaderRule s .ended .next (s.readerAt (.conclude (FogWS.streamEnd s.cells.closing)))
  | finish (outcome : DriverError) : ReaderRule s (.finish outcome) .next
      { s.readerAt (.finishSignal outcome) with cells := s.cells.publishPeerClosed outcome }
  | finishSignal (outcome : DriverError) : ReaderRule s (.finishSignal outcome) .next
      { s.readerAt (.finishSubscribe outcome) with cells := s.cells.signalPeerClose }
  | finishSubscribe (outcome : DriverError) : ReaderRule s (.finishSubscribe outcome) .next
      (s.readerAt (.finishWait outcome (.check s.cells.state.version)))
  | finishOver (outcome : DriverError) (wait : Wait)
      (h : wait.step s.cells.state isTerminalState = some none) :
      ReaderRule s (.finishWait outcome wait) .next (s.readerAt .leave)
  | finishWait (outcome : DriverError) (wait wait' : Wait)
      (h : wait.step s.cells.state isTerminalState = some (some wait')) :
      ReaderRule s (.finishWait outcome wait) .next (s.readerAt (.finishWait outcome wait'))
  | finishTimer (outcome : DriverError) (seen : Nat) :
      ReaderRule s (.finishWait outcome (.changed seen)) .timer (s.readerAt (.finishExpired outcome))
  | finishExpired (outcome : DriverError) : ReaderRule s (.finishExpired outcome) .next
      { s.readerAt .finishAbort with cells := s.cells.publishTerminal outcome }
  | finishAbort : ReaderRule s .finishAbort .next
      { s.readerAt .leave with cells.writerAbort := true }
  | failure (terminal : DriverError) : ReaderRule s (.failure terminal) .next
      { s.readerAt .failureSignal with cells := s.cells.publishTerminal terminal }
  | failureSignal : ReaderRule s .failureSignal .next
      { s.readerAt .failureAbort with cells := s.cells.signalAbort }
  | failureAbort : ReaderRule s .failureAbort .next
      { s.readerAt .leave with cells.writerAbort := true }
  | leave : ReaderRule s .leave .next (dropReader s)
  | returned : ReaderRule s .returned .next { s.readerAt .finished with cells := s.cells.guardDrop }
  | kill {loc : ReaderLoc} (hloc : loc.awaits = true) (h : s.cells.readerAbort = true) :
      ReaderRule s loc .kill (dropReader s)

theorem readerItem_rule (item : Option (Except WsError Message)) :
    ReaderRule s .select (.item item) (readerItem s item) := by
  unfold readerItem
  split
  · exact .streamEnd
  · exact .streamError _
  · exact .text _
  · exact .binary _
  · exact .closeFrame _
  · exact .ping _
  · exact .pong _
  · exact .frame _

/-- The signal has changed behind what the reader has seen. -/
theorem readerChanged_eq_some {loc : ReaderLoc} {b : Nat} (h : readerChanged s loc b = some s') :
    s.reader.seen < s.cells.shutdown.version ∧ s' = { s with
      reader := ⟨loc, s.cells.shutdown.version⟩
      inbound.budget := s.inbound.budget + b } := by
  unfold readerChanged at h
  split at h
  · cases h; exact ⟨‹_›, rfl⟩
  · cases h

/-- The steps of the reader are those of the rules. -/
theorem readerStep_rule {loc : ReaderLoc} {a : ReaderAct} (h : readerStep s loc a = some s') :
    ReaderRule s loc a s' := by
  unfold readerStep at h
  split at h
  · cases h; exact .unstarted
  · cases h
    split
    · exact .topAbort ‹_›
    · exact .top ‹_›
  · cases h; exact readerItem_rule _
  · obtain ⟨hv, rfl⟩ := readerChanged_eq_some h
    exact .selectChanged hv
  · cases h
    split
    · exact .changedAbort ‹_›
    · exact .changed ‹_›
  · -- queue
    split at h
    · cases h; exact .queueStopped _ ‹_›
    · rename_i hrun
      split at h
      · cases h; exact .queueTooLong _ (not_not.mp hrun) ‹_›
      · cases h; exact .queue _ (not_not.mp hrun) (Nat.le_of_not_gt ‹_›)
  · -- acquire
    split at h
    · dsimp only at h
      split at h
      · cases h; exact .acquire _ _ ‹_› ‹_›
      · cases h; exact .acquireOther _ ‹_› ‹_›
    · cases h
  · obtain ⟨hv, rfl⟩ := readerChanged_eq_some h
    exact .acquireChanged _ hv
  · -- send
    split at h
    · cases h; exact .send _ _ _ ‹_›
    · cases h
    · cases h; exact .sendClosed _ _ ‹_›
  · obtain ⟨hv, rfl⟩ := readerChanged_eq_some h
    exact .sendChanged _ _ hv
  · cases h; exact .control
  · cases h; exact .closeTaken _
  · cases h; exact .closeMark _ _
  · cases h; exact .errTaken _
  · cases h; exact .ended
  · cases h; exact .finish _
  · cases h; exact .finishSignal _
  · cases h; exact .finishSubscribe _
  · -- finishWait
    split at h
    · cases h
    · cases h; exact .finishOver _ _ ‹_›
    · cases h; exact .finishWait _ _ _ ‹_›
  · cases h; exact .finishTimer _ _
  · cases h; exact .finishExpired _
  · cases h; exact .finishAbort
  · cases h; exact .failure _
  · cases h; exact .failureSignal
  · cases h; exact .failureAbort
  · cases h; exact .leave
  · cases h; exact .returned
  · obtain ⟨hab, h⟩ := Option.ite_none_right_eq_some.mp h
    cases h; exact .kill rfl hab
  · obtain ⟨hab, h⟩ := Option.ite_none_right_eq_some.mp h
    cases h; exact .kill rfl hab
  · obtain ⟨hab, h⟩ := Option.ite_none_right_eq_some.mp h
    cases h; exact .kill rfl hab
  · obtain ⟨hab, h⟩ := Option.ite_none_right_eq_some.mp h
    cases h; exact .kill rfl hab
  · obtain ⟨hab, h⟩ := Option.ite_none_right_eq_some.mp h
    cases h; exact .kill rfl hab
  · cases h

/-! ## The writer -/

/-- The writer is suspended here, or not yet started: an abort takes effect. -/
def WriterLoc.awaits : WriterLoc → Bool
  | .unstarted | .events | .flush | .send _ | .closeSend | .handshake (.changed _) | .closeFlush => true
  | _ => false

/-- `run_writer` (driver.rs:575), `next_writer_event` (:651) and `close_writer` (:661). -/
inductive WriterRule (s : St) : WriterLoc → WriterAct → St → Prop
  | unstarted : WriterRule s .unstarted .next (s.writerAt .select)
  | selectChanged (h : s.writer.seen < s.cells.shutdown.version) :
      WriterRule s .select .next (writerChanged s)
  | select (h : ¬s.writer.seen < s.cells.shutdown.version) :
      WriterRule s .select .next (s.writerAt .events)
  | eventsChanged (h : s.writer.seen < s.cells.shutdown.version) :
      WriterRule s .events .changed (writerChanged s)
  -- the signal the loop has read
  | running (h : s.cells.shutdown.value = .running) :
      WriterRule s .onShutdown .next (s.writerAt .select)
  | aborted (h : s.cells.shutdown.value = .abort) :
      WriterRule s .onShutdown .next (s.writerAt (.leave none))
  | localClose (h : s.cells.shutdown.value = .localClose) : WriterRule s .onShutdown .next
      { s.writerAt .closeSend with hist.closeFrames := s.hist.closeFrames + 1 }
  | peerClose (h : s.cells.shutdown.value = .peerClose) :
      WriterRule s .onShutdown .next (s.writerAt .closeFlush)
  -- `next_writer_event`
  | takeFlush (control : Mpsc WriterControl) (h : s.control.recv = some (.flush, control)) :
      WriterRule s .events .control { s.writerAt .flushStart with control := control }
  | readerGone (h : s.control.recv = none) (hdone : s.reader.loc.isDone = true) :
      WriterRule s .events .control
        (s.writerAt (.fail (.transport "connection reader stopped unexpectedly") none))
  | takeCommand (command : OutboundCommand) (channel : Mpsc OutboundCommand)
      (h : s.outbound.channel.recv = some (command, channel)) : WriterRule s .events .outbound
      { s.writerAt (.sendStart command) with outbound.channel := channel }
  | driverGone (h : s.outbound.channel.recv = none) (hdropped : s.driver = .dropped) :
      WriterRule s .events .outbound (s.writerAt (.leave none))
  | flushStart : WriterRule s .flushStart .next (s.writerAt .flush)
  | flushed : WriterRule s .flush .sinkOk (s.writerAt .select)
  | flushFailed (error : WsError) : WriterRule s .flush (.sinkErr error)
      (s.writerAt (.fail (.transport "WebSocket control flush failed") none))
  | sendStart (command : OutboundCommand) : WriterRule s (.sendStart command) .next
      { s.writerAt (.send command) with hist.passed := s.hist.passed ++ [command] }
  | sent (command : OutboundCommand) : WriterRule s (.send command) .sinkOk
      { s.writerAt (.answer command) with hist.succeeded := s.hist.succeeded ++ [command] }
  | sendFailed (command : OutboundCommand) (error : WsError) :
      WriterRule s (.send command) (.sinkErr error) (s.writerAt
        (.fail (.transport ("WebSocket send failed: " ++ error.display)) (some command)))
  | answer (command : OutboundCommand) : WriterRule s (.answer command) .next
      { s.writerAt (.release command) with
        outbound := s.outbound.respond command.id (.answered (.ok ())) }
  | release (command : OutboundCommand) : WriterRule s (.release command) .next
      { s.writerAt .select with outbound.budget := s.outbound.budget + command.permit }
  -- `close_writer`
  | closeSent : WriterRule s .closeSend .sinkOk (s.writerAt (.handshake (.check s.writer.seen)))
  | closeSendFailed (error : WsError) :
      WriterRule s .closeSend (.sinkErr error) (s.writerAt (.fail (closeFailed error) none))
  | handshakeOver (wait : Wait) (h : wait.step s.cells.shutdown FogWS.handshakeOver = some none) :
      WriterRule s (.handshake wait) .next (s.writerAt .closeSignal)
  | handshake (wait wait' : Wait)
      (h : wait.step s.cells.shutdown FogWS.handshakeOver = some (some wait')) :
      WriterRule s (.handshake wait) .next (s.writerAt (.handshake wait'))
  | closeSignalAbort (h : s.cells.shutdown.value = .abort) :
      WriterRule s .closeSignal .next (s.writerAt .closeOk)
  | closeSignal (h : s.cells.shutdown.value ≠ .abort) :
      WriterRule s .closeSignal .next (s.writerAt .closeFlush)
  | closeFlushed : WriterRule s .closeFlush .sinkOk (s.writerAt .closeOk)
  | closeFlushFailed (error : WsError) :
      WriterRule s .closeFlush (.sinkErr error) (s.writerAt (.fail (closeFailed error) none))
  | closeOkPeer (outcome : DriverError) (h : peerCloseOutcome s.cells.state.value = some outcome) :
      WriterRule s .closeOk .next (s.writerAt (.closePublish outcome))
  | closeOk (h : peerCloseOutcome s.cells.state.value = none) :
      WriterRule s .closeOk .next (s.writerAt (.leave none))
  | closePublish (outcome : DriverError) : WriterRule s (.closePublish outcome) .next
      { s.writerAt (.leave none) with cells := s.cells.publishTerminal outcome }
  -- a failure
  | fail (error : DriverError) (command : Option OutboundCommand) :
      WriterRule s (.fail error command) .next
        { s.writerAt (.failSignal (Cells.writerFailureOutcome s.cells.state.value error) command) with
          cells := s.cells.publishWriterFailure error }
  | failSignalCommand (terminal : DriverError) (command : OutboundCommand) :
      WriterRule s (.failSignal terminal (some command)) .next
        { s.writerAt (.failAnswer terminal command) with cells := s.cells.signalAbort }
  | failSignal (terminal : DriverError) : WriterRule s (.failSignal terminal none) .next
      { s.writerAt (.leave none) with cells := s.cells.signalAbort }
  | failAnswer (terminal : DriverError) (command : OutboundCommand) :
      WriterRule s (.failAnswer terminal command) .next
        { s.writerAt (.leave (some command)) with
          outbound := s.outbound.respond command.id (.answered (.error terminal)) }
  | leave (command : Option OutboundCommand) : WriterRule s (.leave command) .next (dropWriter s)
  | returned : WriterRule s .returned .next { s.writerAt .finished with cells := s.cells.guardDrop }
  | kill {loc : WriterLoc} (hloc : loc.awaits = true) (h : s.cells.writerAbort = true) :
      WriterRule s loc .kill (dropWriter s)

theorem writerOnShutdown_rule : WriterRule s .onShutdown .next (writerOnShutdown s) := by
  unfold writerOnShutdown
  split
  · exact .running ‹_›
  · exact .aborted ‹_›
  · exact .localClose ‹_›
  · exact .peerClose ‹_›

theorem writerStep_rule {loc : WriterLoc} {a : WriterAct} (h : writerStep s loc a = some s') :
    WriterRule s loc a s' := by
  unfold writerStep at h
  split at h
  · cases h; exact .unstarted
  · cases h
    split
    · exact .selectChanged ‹_›
    · exact .select ‹_›
  · obtain ⟨hv, h⟩ := Option.ite_none_right_eq_some.mp h
    cases h; exact .eventsChanged hv
  · cases h; exact writerOnShutdown_rule
  · -- control
    split at h
    · cases h; exact .takeFlush _ ‹_›
    · obtain ⟨hdone, h⟩ := Option.ite_none_right_eq_some.mp h
      cases h; exact .readerGone ‹_› hdone
  · -- outbound
    split at h
    · cases h; exact .takeCommand _ _ ‹_›
    · obtain ⟨hdropped, h⟩ := Option.ite_none_right_eq_some.mp h
      cases h; exact .driverGone ‹_› hdropped
  · cases h; exact .flushStart
  · cases h; exact .flushed
  · cases h; exact .flushFailed _
  · cases h; exact .sendStart _
  · cases h; exact .sent _
  · cases h; exact .sendFailed _ _
  · cases h; exact .answer _
  · cases h; exact .release _
  · cases h; exact .closeSent
  · cases h; exact .closeSendFailed _
  · -- handshake
    split at h
    · cases h
    · cases h; exact .handshakeOver _ ‹_›
    · cases h; exact .handshake _ _ ‹_›
  · cases h
    split
    · exact .closeSignalAbort ‹_›
    · exact .closeSignal ‹_›
  · cases h; exact .closeFlushed
  · cases h; exact .closeFlushFailed _
  · cases h
    split
    · exact .closeOkPeer _ ‹_›
    · exact .closeOk ‹_›
  · cases h; exact .closePublish _
  · cases h; exact .fail _ _
  · rename_i command
    cases h
    cases command with
    | none => exact .failSignal _
    | some command => exact .failSignalCommand _ _
  · cases h; exact .failAnswer _ _
  · cases h; exact .leave _
  · cases h; exact .returned
  · obtain ⟨hab, h⟩ := Option.ite_none_right_eq_some.mp h
    cases h; exact .kill rfl hab
  · obtain ⟨hab, h⟩ := Option.ite_none_right_eq_some.mp h
    cases h; exact .kill rfl hab
  · obtain ⟨hab, h⟩ := Option.ite_none_right_eq_some.mp h
    cases h; exact .kill rfl hab
  · obtain ⟨hab, h⟩ := Option.ite_none_right_eq_some.mp h
    cases h; exact .kill rfl hab
  · obtain ⟨hab, h⟩ := Option.ite_none_right_eq_some.mp h
    cases h; exact .kill rfl hab
  · obtain ⟨hab, h⟩ := Option.ite_none_right_eq_some.mp h
    cases h; exact .kill rfl hab
  · obtain ⟨hab, h⟩ := Option.ite_none_right_eq_some.mp h
    cases h; exact .kill rfl hab
  · cases h

/-! ## The watchdog -/

/-- The task that `begin_close` spawns (driver.rs:380): the timer, or a state that is terminal before it. -/
inductive WatchdogRule (s : St) (i : Nat) : WatchdogLoc → WatchdogAct → St → Prop
  | sleepOver (wait : Wait) (h : wait.step s.cells.state isTerminalState = some none) :
      WatchdogRule s i (.sleep wait) .next (s.watchdogAt i .returned)
  | sleep (wait wait' : Wait) (h : wait.step s.cells.state isTerminalState = some (some wait')) :
      WatchdogRule s i (.sleep wait) .next (s.watchdogAt i (.sleep wait'))
  | timer (wait : Wait) : WatchdogRule s i (.sleep wait) .timer (s.watchdogAt i .expired)
  | expired : WatchdogRule s i .expired .next
      { s.watchdogAt i .abortReader with cells := s.cells.publishCloseTimeout }
  | abortReader : WatchdogRule s i .abortReader .next
      { s.watchdogAt i .abortWriter with cells.readerAbort := true }
  | abortWriter : WatchdogRule s i .abortWriter .next
      { s.watchdogAt i .returned with cells.writerAbort := true }
  | returned : WatchdogRule s i .returned .next
      { s.watchdogAt i .finished with cells := s.cells.guardDrop }

theorem watchdogStep_rule {loc : WatchdogLoc} {a : WatchdogAct} (h : watchdogStep s i loc a = some s') :
    WatchdogRule s i loc a s' := by
  unfold watchdogStep at h
  split at h
  · split at h
    · cases h
    · cases h; exact .sleepOver _ ‹_›
    · cases h; exact .sleep _ _ ‹_›
  · cases h; exact .timer _
  · cases h; exact .expired
  · cases h; exact .abortReader
  · cases h; exact .abortWriter
  · cases h; exact .returned
  · cases h

/-! ## `close` -/

/-- `close` (driver.rs:323) and `begin_close` (:353), with a location for each await and each publication. -/
inductive CloseRule (s : St) (i : Nat) : CloseLoc → CallAct → St → Prop
  | startClosed (error : DriverError) (h : s.cells.state.value.closedError = some error) :
      CloseRule s i .start .next (s.closeAt i (.waitTasks error (.check 0)))
  | start (h : s.cells.state.value.closedError = none) : CloseRule s i .start .next (s.closeAt i .guard)
  | guard : CloseRule s i .guard .next { s.closeAt i .swap with cells := s.cells.guardNew }
  | swapAgain (h : s.cells.closing = true) : CloseRule s i .swap .next
      { s.closeAt i .earlyReturn with cells.closing := true }
  | swap (h : s.cells.closing = false) : CloseRule s i .swap .next
      { s.closeAt i .transition with cells.closing := true }
  | transition (h : s.cells.state.value = .opened) : CloseRule s i .transition .next
      { s.closeAt i .signal with cells := s.cells.publishClosing }
  | transitionLate (h : s.cells.state.value ≠ .opened) : CloseRule s i .transition .next
      { s.closeAt i .earlyReturn with cells := s.cells.publishClosing }
  | signal : CloseRule s i .signal .next { s.closeAt i .arm with cells := s.cells.signalLocalClose }
  | armAgain (h : s.cells.closeTimeoutStarted = true) : CloseRule s i .arm .next
      { s.closeAt i .earlyReturn with cells.closeTimeoutStarted := true }
  | arm (h : s.cells.closeTimeoutStarted = false) : CloseRule s i .arm .next
      { s.closeAt i .spawn with cells.closeTimeoutStarted := true }
  | spawn : CloseRule s i .spawn .next
      { s.closeAt i .subscribe with
        watchdogs := s.watchdogs ++ [.sleep (.check s.cells.state.version)] }
  | earlyReturn : CloseRule s i .earlyReturn .next
      { s.closeAt i .subscribe with cells := s.cells.guardDrop }
  | subscribe : CloseRule s i .subscribe .next (s.closeAt i (.waitState (.check 0)))
  | waitStateOver (wait : Wait) (error : DriverError)
      (h : wait.step s.cells.state DriverState.isTerminal = some none)
      (he : s.cells.state.value.closedError = some error) :
      CloseRule s i (.waitState wait) .next (s.closeAt i (.waitTasks error (.check 0)))
  | waitState (wait wait' : Wait)
      (h : wait.step s.cells.state DriverState.isTerminal = some (some wait')) :
      CloseRule s i (.waitState wait) .next (s.closeAt i (.waitState wait'))
  | waitTasksOver (terminal : DriverError) (wait : Wait)
      (h : wait.step s.cells.tasksRemaining (· == 0) = some none) :
      CloseRule s i (.waitTasks terminal wait) .next (s.closeAt i (.returned (closeResult terminal)))
  | waitTasks (terminal : DriverError) (wait wait' : Wait)
      (h : wait.step s.cells.tasksRemaining (· == 0) = some (some wait')) :
      CloseRule s i (.waitTasks terminal wait) .next (s.closeAt i (.waitTasks terminal wait'))
  | dropStart : CloseRule s i .start .drop (s.closeAt i .dropped)
  | dropWaitState (seen : Nat) : CloseRule s i (.waitState (.changed seen)) .drop (s.closeAt i .dropped)
  | dropWaitTasks (terminal : DriverError) (seen : Nat) :
      CloseRule s i (.waitTasks terminal (.changed seen)) .drop (s.closeAt i .dropped)

theorem closeStep_rule {loc : CloseLoc} {a : CallAct} (h : closeStep s i loc a = some s') :
    CloseRule s i loc a s' := by
  unfold closeStep at h
  split at h
  · cases h
    split
    · exact .startClosed _ ‹_›
    · exact .start ‹_›
  · cases h; exact .guard
  · cases h
    split
    · exact .swapAgain ‹_›
    · exact .swap (Bool.not_eq_true _ ▸ ‹_›)
  · cases h
    split
    · exact .transition ‹_›
    · exact .transitionLate ‹_›
  · cases h; exact .signal
  · cases h
    split
    · exact .armAgain ‹_›
    · exact .arm (Bool.not_eq_true _ ▸ ‹_›)
  · cases h; exact .spawn
  · cases h; exact .earlyReturn
  · cases h; exact .subscribe
  · split at h
    · cases h
    · obtain ⟨error, he, rfl⟩ := Option.map_eq_some_iff.mp h
      exact .waitStateOver _ _ ‹_› he
    · cases h; exact .waitState _ _ ‹_›
  · split at h
    · cases h
    · cases h; exact .waitTasksOver _ _ ‹_›
    · cases h; exact .waitTasks _ _ _ ‹_›
  · cases h; exact .dropStart
  · cases h; exact .dropWaitState _
  · cases h; exact .dropWaitTasks _ _
  · cases h

/-! ## `try_admit_outbound` and `send_admitted` -/

/-- A refusal gives back what it has taken, in the order of the code. -/
inductive SendRule (config : ConnectionConfig) (s : St) (i : Nat) : SendLoc → SendAct → St → Prop
  | invalid (size : Nat) (error : DriverError)
      (h : validateOutboundMessage config s.cells.state.value size = .error error) :
      SendRule config s i (.start size) .next
        (s.sendAt i (.refused (.validation s.cells.state.value) error))
  | unsupported (size : Nat) (h : validateOutboundMessage config s.cells.state.value size = .ok ())
      (hu : size > u32Max) : SendRule config s i (.start size) .next
      (s.sendAt i (.refused .unsupported unsupportedSize))
  | start (size : Nat) (h : validateOutboundMessage config s.cells.state.value size = .ok ())
      (hu : size ≤ u32Max) : SendRule config s i (.start size) .next (s.sendAt i (.acquire size))
  | acquire (size : Nat) (h : size ≤ s.outbound.budget) : SendRule config s i (.acquire size) .next
      { s.sendAt i (.reserve size) with outbound.budget := s.outbound.budget - size }
  | exhausted (size : Nat) (h : ¬size ≤ s.outbound.budget) : SendRule config s i (.acquire size) .next
      (s.sendAt i (.refused .bytesExhausted bytesExhausted))
  | reserve (size : Nat) (channel : Mpsc OutboundCommand)
      (h : s.outbound.channel.tryReserve = .ok channel) : SendRule config s i (.reserve size) .next
      { s.sendAt i (.admitted size) with outbound.channel := channel }
  | full (size : Nat) (h : s.outbound.channel.tryReserve = .error .full) :
      SendRule config s i (.reserve size) .next (s.sendAt i (.giveBack size .queueFull queueFull))
  | closed (size : Nat) (h : s.outbound.channel.tryReserve = .error .closed) :
      SendRule config s i (.reserve size) .next (s.sendAt i (.refuse size))
  | refuse (size : Nat) : SendRule config s i (.refuse size) .next
      (s.sendAt i (.giveBack size .channelClosed (terminalError s.cells.state.value)))
  | giveBack (size : Nat) (why : Refusal) (error : DriverError) :
      SendRule config s i (.giveBack size why error) .next
        { s.sendAt i (.refused why error) with outbound.budget := s.outbound.budget + size }
  | mismatch (size : Nat) (message : Message) (h : message.len ≠ size) :
      SendRule config s i (.admitted size) (.handOver message)
        { s.sendAt i (.mismatched messageChanged) with
          outbound.budget := s.outbound.budget + size
          outbound.channel := s.outbound.channel.release }
  | handOver (message : Message) : SendRule config s i (.admitted message.len) (.handOver message)
      { s.sendAt i .response with
        outbound :=
          { s.outbound.respond i .pending with
            channel := s.outbound.channel.push ⟨i, message, message.len⟩ }
        hist.handed := s.hist.handed ++ [⟨i, message, message.len⟩] }
  | dropAdmitted (size : Nat) : SendRule config s i (.admitted size) .drop
      { s.sendAt i .dropped with
        outbound.budget := s.outbound.budget + size
        outbound.channel := s.outbound.channel.release }
  | answered (result : Except DriverError Unit) (h : s.outbound.responses i = .answered result) :
      SendRule config s i .response .next (s.sendAt i (.returned result))
  | unanswered (h : s.outbound.responses i = .dropped) :
      SendRule config s i .response .next (s.sendAt i .terminal)
  | dropResponse : SendRule config s i .response .drop (s.sendAt i .dropped)
  | terminal : SendRule config s i .terminal .next
      (s.sendAt i (.returned (.error (terminalError s.cells.state.value))))

theorem sendStep_rule {loc : SendLoc} {a : SendAct} (h : sendStep config s i loc a = some s') :
    SendRule config s i loc a s' := by
  unfold sendStep at h
  split at h
  · cases h
    split
    · exact .invalid _ _ ‹_›
    · split
      · exact .unsupported _ ‹_› ‹_›
      · exact .start _ ‹_› (Nat.le_of_not_gt ‹_›)
  · cases h
    split
    · exact .acquire _ ‹_›
    · exact .exhausted _ ‹_›
  · cases h
    split
    · exact .reserve _ _ ‹_›
    · exact .full _ ‹_›
    · exact .closed _ ‹_›
  · cases h; exact .refuse _
  · cases h; exact .giveBack _ _ _
  · split at h
    · cases h; exact .mismatch _ _ ‹_›
    · rename_i hlen
      obtain rfl := not_not.mp hlen
      cases h; exact .handOver _
  · cases h; exact .dropAdmitted _
  · split at h
    · cases h; exact .answered _ ‹_›
    · cases h; exact .unanswered ‹_›
    · cases h
    · cases h
  · cases h; exact .dropResponse
  · cases h; exact .terminal
  · cases h

/-! ## `receive` -/

/-- `receive` (driver.rs:314): one at a time, then a lock, then the channel. -/
inductive ReceiveRule (s : St) (i : Nat) : ReceiveLoc → CallAct → St → Prop
  | busy (h : s.inbound.receiveActive = true) :
      ReceiveRule s i .start .next (s.receiveAt i (.returned (.error receiveBusy)))
  | start (h : s.inbound.receiveActive = false) : ReceiveRule s i .start .next
      { s.receiveAt i .lock with inbound.receiveActive := true }
  | lock (h : s.inbound.locked = false) : ReceiveRule s i .lock .next
      { s.receiveAt i .recv with inbound.locked := true }
  | recv (envelope : InboundEnvelope) (channel : Mpsc InboundEnvelope)
      (h : s.inbound.channel.recv = some (envelope, channel)) : ReceiveRule s i .recv .next
      { s.receiveAt i (.took envelope.message envelope.permit) with inbound.channel := channel }
  | ended (h : s.inbound.channel.recv = none) (hdone : s.reader.loc.isDone = true) :
      ReceiveRule s i .recv .next (s.receiveAt i .terminal)
  | took (message : InboundMessage) (permit : Nat) : ReceiveRule s i (.took message permit) .next
      { s.receiveAt i (.finish (.ok message)) with inbound.budget := s.inbound.budget + permit }
  | terminal : ReceiveRule s i .terminal .next
      (s.receiveAt i (.finish (.error (terminalError s.cells.state.value))))
  | deliver (message : InboundMessage) : ReceiveRule s i (.finish (.ok message)) .next
      { s.receiveAt i (.returned (.ok message)) with
        inbound.locked := false
        inbound.receiveActive := false
        hist.returned := s.hist.returned ++ [message] }
  | fail (error : DriverError) : ReceiveRule s i (.finish (.error error)) .next
      { s.receiveAt i (.returned (.error error)) with
        inbound.locked := false
        inbound.receiveActive := false }
  | dropStart : ReceiveRule s i .start .drop (s.receiveAt i .dropped)
  | dropLock : ReceiveRule s i .lock .drop
      { s.receiveAt i .dropped with inbound.receiveActive := false }
  | dropRecv : ReceiveRule s i .recv .drop
      { s.receiveAt i .dropped with
        inbound.locked := false
        inbound.receiveActive := false }

theorem receiveStep_rule {loc : ReceiveLoc} {a : CallAct} (h : receiveStep s i loc a = some s') :
    ReceiveRule s i loc a s' := by
  unfold receiveStep at h
  split at h
  · cases h
    split
    · exact .busy ‹_›
    · exact .start (Bool.not_eq_true _ ▸ ‹_›)
  · split at h
    · cases h
    · cases h; exact .lock (Bool.not_eq_true _ ▸ ‹_›)
  · split at h
    · cases h; exact .recv _ _ ‹_›
    · obtain ⟨hdone, h⟩ := Option.ite_none_right_eq_some.mp h
      cases h; exact .ended ‹_› hdone
  · cases h; exact .took _ _
  · cases h; exact .terminal
  · rename_i result
    cases h
    cases result with
    | ok message => exact .deliver _
    | error error => exact .fail _
  · cases h; exact .dropStart
  · cases h; exact .dropLock
  · cases h; exact .dropRecv
  · cases h

end FogWS
