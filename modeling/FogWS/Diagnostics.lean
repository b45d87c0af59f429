import FogWS.Driver
import FogWS.SendText
/-!
# The reason of a Close frame in a diagnostic

The reason is text of the peer's own making. It is handed on in an attribute of the exception, and nowhere
else: `CloseInfo::describe` (error.rs:19) leaves it out of the message, so that it cannot forge a line of a
log. Nothing in the driver looks at it either, and that is said here of whole runs: what a run does with the
reasons blanked is the same run, with the reasons blanked (`step_redact`).

The library does look at it. A Close frame whose reason is too long never gets to the reader, which is given an
error instead; and the library answers a Close frame with its own code and reason, by itself. So the runs
compared are those whose frames the library hands over, and what is said to be the same is what the driver
passes to the sink.

| here | there |
| --- | --- |
| `Label.handed` | what the reader takes is what the library hands over (config.rs:85, :86) |
| `redact` | every reason in a state or in a label is blanked |
| `Indistinct` | two states that differ in the reasons only |
-/
namespace FogWS

/-! ## What the library hands over -/

/-- The frame that the library hands over in place of a Close frame with a code that nobody may send. -/
def protocolViolation : CloseFrame := ⟨1002, "Protocol violation"⟩

/-- The library hands the message over. The payload of a Close frame is two bytes of code and the reason. -/
def Message.handed (config : ConnectionConfig) : Message → Bool
  | .text payload => payload.utf8ByteSize ≤ config.maxMessageSize
  | .binary payload => payload.length ≤ config.maxMessageSize
  | .ping payload | .pong payload => config.readsControl payload.length
  | .close (some f) => config.readsControl (2 + f.reason.utf8ByteSize) || f = protocolViolation
  | .close none | .frame _ => true

def Label.handed (config : ConnectionConfig) : Label → Bool
  | .reader (.item (some (.ok message))) => message.handed config
  | _ => true

/-- A run whose frames are handed over. -/
abbrev HandedRun (config : ConnectionConfig) (ls : List Label) (s : St) : Prop :=
  Lts.Path (step config) (fun _ l => l.handed config = true) (start config) ls s

/-! ## Blanking the reasons -/

def CloseFrame.redact (f : CloseFrame) : CloseFrame := { f with reason := "" }

/-- What an error tells of a close (error.rs:3). -/
def CloseInfo.redact (info : CloseInfo) : CloseInfo := { info with reason := "" }

/-- Only the two errors of a close carry a reason. -/
def DriverError.redact : DriverError → DriverError
  | .closedError info => .closedError info.redact
  | .closedOk info => .closedOk info.redact
  | e => e

/-- The outcome in the `state` cell. -/
def DriverState.redact : DriverState → DriverState
  | .closed e => .closed e.redact
  | .peerClosed o => .peerClosed o.redact
  | v => v

/-- `state` is the one cell with an error in it. -/
def Cells.redact (c : Cells) : Cells := { c with state := c.state.map DriverState.redact }

/-- The frame that was taken, and the outcome made of it. -/
def ReaderLoc.redact : ReaderLoc → ReaderLoc
  | .closeTaken frame => .closeTaken (frame.map CloseFrame.redact)
  | .closeMark frame b => .closeMark (frame.map CloseFrame.redact) b
  | .finish o => .finish o.redact
  | .finishSignal o => .finishSignal o.redact
  | .finishSubscribe o => .finishSubscribe o.redact
  | .finishWait o wait => .finishWait o.redact wait
  | .finishExpired o => .finishExpired o.redact
  | .failure e => .failure e.redact
  | loc => loc

/-- The outcome the writer is about to publish, or to answer with. -/
def WriterLoc.redact : WriterLoc → WriterLoc
  | .closePublish o => .closePublish o.redact
  | .fail e command => .fail e.redact command
  | .failSignal e command => .failSignal e.redact command
  | .failAnswer e command => .failAnswer e.redact command
  | loc => loc

def CloseLoc.redact : CloseLoc → CloseLoc
  | .waitTasks e wait => .waitTasks e.redact wait
  | .returned r => .returned (r.mapError DriverError.redact)
  | loc => loc

def Refusal.redact : Refusal → Refusal
  | .validation observed => .validation observed.redact
  | why => why

/-- What a send is told. -/
def SendLoc.redact : SendLoc → SendLoc
  | .giveBack size why e => .giveBack size why.redact e.redact
  | .refused why e => .refused why.redact e.redact
  | .mismatched e => .mismatched e.redact
  | .returned r => .returned (r.mapError DriverError.redact)
  | loc => loc

/-- What a receive is told. -/
def ReceiveLoc.redact : ReceiveLoc → ReceiveLoc
  | .finish r => .finish (r.mapError DriverError.redact)
  | .returned r => .returned (r.mapError DriverError.redact)
  | loc => loc

/-- The answer in a oneshot. -/
def Response.redact : Response → Response
  | .answered r => .answered (r.mapError DriverError.redact)
  | r => r

def Outbound.redact (o : Outbound) : Outbound := { o with responses := fun i => (o.responses i).redact }

def PeerClose.redact (p : PeerClose) : PeerClose := { p with frame := p.frame.map CloseFrame.redact }

/-- Every reason in the state is blanked, in the history too. -/
def St.redact (s : St) : St :=
  { s with
    cells := s.cells.redact
    reader.loc := s.reader.loc.redact
    writer.loc := s.writer.loc.redact
    closes := s.closes.map CloseLoc.redact
    sends := s.sends.map SendLoc.redact
    receives := s.receives.map ReceiveLoc.redact
    outbound := s.outbound.redact
    hist.peerClose := s.hist.peerClose.map PeerClose.redact }

/-- The item is blanked if it is a Close frame. -/
def ReaderAct.redact : ReaderAct → ReaderAct
  | .item (some (.ok (.close frame))) => .item (some (.ok (.close (frame.map CloseFrame.redact))))
  | a => a

/-- The same label, blanked if the reader takes a Close frame by it. -/
def Label.redact : Label → Label
  | .reader a => .reader a.redact
  | l => l

/-! ## What the driver looks at -/

@[simp] theorem DriverError.isClosedOk_redact (e : DriverError) : e.redact.isClosedOk = e.isClosedOk := by
  cases e <;> rfl

@[simp] theorem DriverState.isTerminal_redact (v : DriverState) : v.redact.isTerminal = v.isTerminal := by
  cases v <;> rfl

theorem DriverState.redact_eq_opened (v : DriverState) : v.redact = .opened ↔ v = .opened := by
  cases v <;> simp [DriverState.redact]

/-- Whether an outcome is clean does not depend on its reason (driver.rs:496, :511). -/
theorem ReaderLoc.conclude_redact (e : DriverError) : ReaderLoc.conclude e.redact = (conclude e).redact := by
  unfold ReaderLoc.conclude
  rw [DriverError.isClosedOk_redact]
  split <;> rfl

/-- `classify_close` goes by the code. -/
theorem classifyClose_redact (f : Option CloseFrame) (b : Bool) :
    classifyClose (f.map CloseFrame.redact) b = (classifyClose f b).redact := by
  cases f with
  | none => rfl
  | some f =>
    simp only [classifyClose, Option.map_some, CloseFrame.redact]
    split <;> rfl

/-- An error of the stream has no reason in it. -/
theorem receiveFailure_redact (closing : Bool) (error : WsError) :
    (receiveFailure closing error).redact = receiveFailure closing error := by
  unfold receiveFailure
  split <;> rfl

theorem streamEnd_redact (closing : Bool) : (streamEnd closing).redact = streamEnd closing := by
  unfold streamEnd
  split <;> rfl

/-- `close` returns, or raises, whatever the reason is. -/
theorem closeResult_redact (e : DriverError) :
    closeResult e.redact = (closeResult e).mapError DriverError.redact := by
  cases e <;> rfl

theorem terminalError_redact (v : DriverState) : terminalError v.redact = (terminalError v).redact := by
  cases v <;> rfl

theorem closedError_redact (v : DriverState) : v.redact.closedError = v.closedError.map DriverError.redact := by
  cases v <;> rfl

theorem peerCloseOutcome_redact (v : DriverState) :
    peerCloseOutcome v.redact = (peerCloseOutcome v).map DriverError.redact := by
  cases v <;> rfl

/-- `publish_writer_failure` goes by the state, and hands the outcome on. -/
theorem writerFailureOutcome_redact (v : DriverState) (e : DriverError) :
    Cells.writerFailureOutcome v.redact e.redact = (Cells.writerFailureOutcome v e).redact := by
  cases v <;> rfl

/-- A send is refused by the state and by its size. -/
theorem validate_redact (config : ConnectionConfig) (v : DriverState) (size : Nat) :
    validateOutboundMessage config v.redact size =
      (validateOutboundMessage config v size).mapError DriverError.redact := by
  cases v with
  | opened =>
    simp only [validateOutboundMessage, ensureOpen, DriverState.redact]
    split <;> rfl
  | _ => rfl

namespace Cells

variable (c : Cells) (e : DriverError)

theorem publishWriterFailure_redact :
    c.redact.publishWriterFailure e.redact = (c.publishWriterFailure e).redact := by
  simp only [publishWriterFailure, redact]
  congr 1
  exact Watch.map_sendIfModified (fun v => by cases v <;> rfl) _

theorem publishTerminal_redact : c.redact.publishTerminal e.redact = (c.publishTerminal e).redact := by
  simp only [publishTerminal, redact]
  congr 1
  exact Watch.map_sendIfModified (fun v => by cases v <;> rfl) _

theorem publishPeerClosed_redact : c.redact.publishPeerClosed e.redact = (c.publishPeerClosed e).redact := by
  simp only [publishPeerClosed, redact]
  congr 1
  exact Watch.map_sendIfModified (fun v => by cases v <;> rfl) _

theorem publishCloseTimeout_redact : c.redact.publishCloseTimeout = c.publishCloseTimeout.redact := by
  simp only [publishCloseTimeout, redact]
  congr 1
  exact Watch.map_sendIfModified (fun v => by cases v <;> rfl) _

theorem publishClosing_redact : c.redact.publishClosing = c.publishClosing.redact := by
  simp only [publishClosing, redact]
  congr 1
  exact Watch.map_sendIfModified (fun v => by cases v <;> rfl) _

end Cells

namespace Outbound

variable (o : Outbound)

/-- Answering one command, with the reasons blanked. -/
theorem respond_redact (i : Nat) (r : Response) : o.redact.respond i r.redact = (o.respond i r).redact := by
  simp only [redact, respond]
  congr 1
  funext j
  by_cases hj : j = i
  · subst hj; simp
  · simp [hj]

/-- What is dropped with the receiver has no answer yet. -/
theorem discard_redact (cs : List OutboundCommand) : o.redact.discard cs = (o.discard cs).redact := by
  simp only [redact, discard]
  congr 1
  funext j
  cases o.responses j with
  | pending =>
    simp only [Response.redact]
    split <;> rfl
  | _ => rfl

end Outbound

/-! ## Every step commutes -/

namespace St

variable (s : St)

theorem redact_cells : s.redact.cells = s.cells.redact := rfl
@[simp] theorem redact_state : s.redact.cells.state = s.cells.state.map DriverState.redact := rfl
@[simp] theorem redact_shutdown : s.redact.cells.shutdown = s.cells.shutdown := rfl
@[simp] theorem redact_tasks : s.redact.cells.tasksRemaining = s.cells.tasksRemaining := rfl
@[simp] theorem redact_closing : s.redact.cells.closing = s.cells.closing := rfl
@[simp] theorem redact_started : s.redact.cells.closeTimeoutStarted = s.cells.closeTimeoutStarted := rfl
@[simp] theorem redact_readerAbort : s.redact.cells.readerAbort = s.cells.readerAbort := rfl
@[simp] theorem redact_writerAbort : s.redact.cells.writerAbort = s.cells.writerAbort := rfl
@[simp] theorem redact_readerLoc : s.redact.reader.loc = s.reader.loc.redact := rfl
@[simp] theorem redact_writerLoc : s.redact.writer.loc = s.writer.loc.redact := rfl
@[simp] theorem redact_inbound : s.redact.inbound = s.inbound := rfl
theorem redact_outbound : s.redact.outbound = s.outbound.redact := rfl
@[simp] theorem redact_channel : s.redact.outbound.channel = s.outbound.channel := rfl
@[simp] theorem redact_responses (i : Nat) :
    s.redact.outbound.responses i = (s.outbound.responses i).redact := rfl
@[simp] theorem redact_control : s.redact.control = s.control := rfl
@[simp] theorem redact_driver : s.redact.driver = s.driver := rfl
@[simp] theorem redact_aborts : s.redact.aborts = s.aborts := rfl
@[simp] theorem redact_watchdogs : s.redact.watchdogs = s.watchdogs := rfl

end St

@[simp] theorem ReaderLoc.held_redact (loc : ReaderLoc) : loc.redact.held = loc.held := by
  cases loc <;> rfl

@[simp] theorem ReaderLoc.isDone_redact (loc : ReaderLoc) : loc.redact.isDone = loc.isDone := by
  cases loc <;> rfl

@[simp] theorem WriterLoc.inFlight_redact (loc : WriterLoc) : loc.redact.inFlight = loc.inFlight := by
  cases loc <;> rfl

/-- An error without a reason is concluded alike. -/
theorem ReaderLoc.conclude_fixed {e : DriverError} (h : e.redact = e) : (conclude e).redact = conclude e := by
  rw [← ReaderLoc.conclude_redact, h]

/-- The end of the reader is the same end. -/
theorem dropReader_redact (s : St) : dropReader s.redact = (dropReader s).redact := by
  simp only [dropReader, St.redact_readerLoc, ReaderLoc.held_redact]
  rfl

variable {config : ConnectionConfig}

/-- The reader takes an item without a look at its reason. -/
theorem readerItem_redact (s : St) (item : Option (Except WsError Message)) :
    readerStep s.redact .select (ReaderAct.item item).redact =
      (readerStep s .select (.item item)).map St.redact := by
  rcases item with _ | error | m
  · rfl
  · rfl
  · cases m with
    | close frame =>
      simp only [ReaderAct.redact, readerStep, readerItem, St.redact_state, Watch.value_map,
        DriverState.isTerminal_redact]
      rfl
    | _ => rfl

theorem readerChanged_redact (s : St) {loc : ReaderLoc} (budget : Nat) (hloc : loc.redact = loc) :
    readerChanged s.redact loc budget = (readerChanged s loc budget).map St.redact := by
  unfold readerChanged
  rw [apply_ite (Option.map St.redact)]
  refine if_congr Iff.rfl ?_ rfl
  simp only [Option.map_some, St.redact, hloc]
  rfl

/-- An aborted reader is dropped, whatever it holds. -/
theorem readerKill_redact (s : St) (loc : ReaderLoc) :
    readerStep s.redact loc.redact .kill = (readerStep s loc .kill).map St.redact := by
  have hdrop : (if s.redact.cells.readerAbort then some (dropReader s.redact) else none) =
      (if s.cells.readerAbort then some (dropReader s) else none).map St.redact := by
    rw [dropReader_redact, St.redact_readerAbort]
    cases s.cells.readerAbort <;> rfl
  cases loc with
  | unstarted | select | acquire | send => exact hdrop
  | finishWait o wait =>
    cases wait with
    | check => rfl
    | changed => exact hdrop
  | _ => rfl

/-- The reader goes on by itself: by the signal, the code and the flag. -/
theorem readerNext_redact (s : St) (loc : ReaderLoc) :
    readerStep s.redact loc.redact .next = (readerStep s loc .next).map St.redact := by
  cases loc with
  | top | changed =>
    dsimp only [ReaderLoc.redact, readerStep]
    by_cases h : s.cells.shutdown.value = .abort
    · have h' : s.redact.cells.shutdown.value = .abort := h
      rw [if_pos h, if_pos h']; rfl
    · have h' : ¬s.redact.cells.shutdown.value = .abort := h
      rw [if_neg h, if_neg h']; rfl
  | queue payload =>
    dsimp only [ReaderLoc.redact, readerStep]
    rw [apply_ite (Option.map St.redact), apply_ite (Option.map St.redact)]
    exact if_congr Iff.rfl rfl (if_congr Iff.rfl rfl rfl)
  | acquire payload =>
    dsimp only [ReaderLoc.redact, readerStep]
    rw [apply_ite (Option.map St.redact)]
    refine if_congr Iff.rfl ?_ rfl
    cases InboundMessage.ofMessage payload <;> rfl
  | send message permit =>
    dsimp only [ReaderLoc.redact, readerStep]
    rw [St.redact_inbound]
    cases s.inbound.channel.trySend ⟨message, permit⟩ with
    | ok channel => rfl
    | error why => cases why <;> rfl
  | closeTaken frame =>
    refine congrArg some ?_
    simp only [St.redact, St.readerAt, Option.map_map]
    rfl
  | closeMark frame b =>
    dsimp only [ReaderLoc.redact, readerStep]
    rw [classifyClose_redact]
    rfl
  | errTaken error =>
    have hloc := ReaderLoc.conclude_fixed (receiveFailure_redact s.cells.closing error)
    exact congrArg (fun loc => some (s.redact.readerAt loc)) hloc.symm
  | ended =>
    have hloc := ReaderLoc.conclude_fixed (streamEnd_redact s.cells.closing)
    exact congrArg (fun loc => some (s.redact.readerAt loc)) hloc.symm
  | finish o =>
    dsimp only [ReaderLoc.redact, readerStep]
    rw [St.redact_cells, Cells.publishPeerClosed_redact]
    rfl
  | finishSubscribe o =>
    dsimp only [ReaderLoc.redact, readerStep]
    rw [St.redact_state, Watch.version_map]
    rfl
  | finishWait o wait =>
    have hstep : wait.step s.redact.cells.state isTerminalState = wait.step s.cells.state isTerminalState :=
      Wait.step_map DriverState.isTerminal_redact
    dsimp only [ReaderLoc.redact, readerStep]
    rw [hstep]
    rcases wait.step s.cells.state isTerminalState with _ | _ | wait <;> rfl
  | finishExpired o | failure e =>
    dsimp only [ReaderLoc.redact, readerStep]
    rw [St.redact_cells, Cells.publishTerminal_redact]
    rfl
  | leave => exact congrArg some (dropReader_redact s)
  | _ => rfl

/-- The reader: it classifies by code and flag, and carries the reason along. -/
theorem readerStep_redact (s : St) (loc : ReaderLoc) (a : ReaderAct) :
    readerStep s.redact loc.redact a.redact = (readerStep s loc a).map St.redact := by
  cases a with
  | item item =>
    cases loc with
    | select => exact readerItem_redact s item
    | _ =>
      rcases item with _ | error | m
      · rfl
      · rfl
      · cases m <;> rfl
  | changed =>
    cases loc with
    | select | acquire | send => exact readerChanged_redact s _ rfl
    | _ => rfl
  | timer =>
    cases loc with
    | finishWait o wait => cases wait <;> rfl
    | _ => rfl
  | kill => exact readerKill_redact s loc
  | next => exact readerNext_redact s loc

/-! ### The writer and the watchdogs -/

/-- The end of the writer is the same end. -/
theorem dropWriter_redact (s : St) : dropWriter s.redact = (dropWriter s).redact := by
  simp only [dropWriter, St.redact_writerLoc, WriterLoc.inFlight_redact, St.redact_channel]
  rw [St.redact_outbound, Outbound.discard_redact]
  rfl

/-- The writer goes by the signal, which is not an outcome. -/
theorem writerOnShutdown_redact (s : St) : writerOnShutdown s.redact = (writerOnShutdown s).redact := by
  unfold writerOnShutdown
  rw [St.redact_shutdown]
  cases s.cells.shutdown.value <;> rfl

/-- An aborted writer is dropped, with whatever it was to write. -/
theorem writerKill_redact (s : St) (loc : WriterLoc) :
    writerStep s.redact loc.redact .kill = (writerStep s loc .kill).map St.redact := by
  have hdrop : (if s.redact.cells.writerAbort then some (dropWriter s.redact) else none) =
      (if s.cells.writerAbort then some (dropWriter s) else none).map St.redact := by
    rw [dropWriter_redact, St.redact_writerAbort]
    cases s.cells.writerAbort <;> rfl
  cases loc with
  | unstarted | events | flush | send | closeSend | closeFlush => exact hdrop
  | handshake wait =>
    cases wait with
    | check => rfl
    | changed => exact hdrop
  | _ => rfl

/-- The writer goes on by itself: by the signal, and by what the state is. -/
theorem writerNext_redact (s : St) (loc : WriterLoc) :
    writerStep s.redact loc.redact .next = (writerStep s loc .next).map St.redact := by
  cases loc with
  | select =>
    refine congrArg some ?_
    rw [apply_ite St.redact]
    exact if_congr Iff.rfl rfl rfl
  | onShutdown => exact congrArg some (writerOnShutdown_redact s)
  | answer command =>
    have h := Outbound.respond_redact s.outbound command.id (.answered (.ok ()))
    exact congrArg (fun outbound => some { s.redact.writerAt (.release command) with outbound }) h
  | handshake wait =>
    dsimp only [WriterLoc.redact, writerStep]
    rw [St.redact_shutdown]
    rcases wait.step s.cells.shutdown handshakeOver with _ | _ | wait <;> rfl
  | closeSignal =>
    dsimp only [WriterLoc.redact, writerStep]
    by_cases h : s.cells.shutdown.value = .abort
    · have h' : s.redact.cells.shutdown.value = .abort := h
      rw [if_pos h, if_pos h']; rfl
    · have h' : ¬s.redact.cells.shutdown.value = .abort := h
      rw [if_neg h, if_neg h']; rfl
  | closeOk =>
    dsimp only [WriterLoc.redact, writerStep]
    rw [St.redact_state, Watch.value_map, peerCloseOutcome_redact]
    cases peerCloseOutcome s.cells.state.value <;> rfl
  | closePublish outcome =>
    dsimp only [WriterLoc.redact, writerStep]
    rw [St.redact_cells, Cells.publishTerminal_redact]
    rfl
  | fail error command =>
    dsimp only [WriterLoc.redact, writerStep]
    rw [St.redact_state, Watch.value_map, writerFailureOutcome_redact, St.redact_cells,
      Cells.publishWriterFailure_redact]
    rfl
  | failSignal terminal command => cases command <;> rfl
  | failAnswer terminal command =>
    have h := Outbound.respond_redact s.outbound command.id (.answered (.error terminal))
    exact congrArg (fun outbound => some { s.redact.writerAt (.leave (some command)) with outbound }) h
  | leave command => exact congrArg some (dropWriter_redact s)
  | _ => rfl

/-- The writer: it publishes and answers what it has read, as it is. -/
theorem writerStep_redact (s : St) (loc : WriterLoc) (a : WriterAct) :
    writerStep s.redact loc.redact a = (writerStep s loc a).map St.redact := by
  cases a with
  | changed =>
    cases loc with
    | events =>
      dsimp only [WriterLoc.redact, writerStep]
      rw [apply_ite (Option.map St.redact)]
      exact if_congr Iff.rfl rfl rfl
    | _ => rfl
  | control =>
    cases loc with
    | events =>
      dsimp only [WriterLoc.redact, writerStep]
      rw [St.redact_control, St.redact_readerLoc, ReaderLoc.isDone_redact]
      rcases s.control.recv with _ | ⟨⟨⟩, control⟩
      · cases s.reader.loc.isDone <;> rfl
      · rfl
    | _ => rfl
  | outbound =>
    cases loc with
    | events =>
      dsimp only [WriterLoc.redact, writerStep]
      rw [St.redact_channel, St.redact_driver]
      rcases s.outbound.channel.recv with _ | ⟨command, channel⟩
      · cases s.driver <;> rfl
      · rfl
    | _ => rfl
  | sinkOk => cases loc <;> rfl
  | sinkErr error => cases loc <;> rfl
  | kill => exact writerKill_redact s loc
  | next => exact writerNext_redact s loc

/-- The watchdog waits for a terminal state, whatever the outcome. -/
theorem watchdogStep_redact (s : St) (i : Nat) (loc : WatchdogLoc) (a : WatchdogAct) :
    watchdogStep s.redact i loc a = (watchdogStep s i loc a).map St.redact := by
  cases a with
  | timer => cases loc <;> rfl
  | next =>
    cases loc with
    | sleep wait =>
      have hstep : wait.step s.redact.cells.state isTerminalState = wait.step s.cells.state isTerminalState :=
        Wait.step_map DriverState.isTerminal_redact
      dsimp only [watchdogStep]
      rw [hstep]
      rcases wait.step s.cells.state isTerminalState with _ | _ | wait <;> rfl
    | expired =>
      dsimp only [watchdogStep]
      rw [St.redact_cells, Cells.publishCloseTimeout_redact]
      rfl
    | _ => rfl

/-! ### The calls -/

section Calls

variable (s : St) (i : Nat)

/-- A call that has moved, in a state with the reasons blanked. -/
theorem closeAt_redact (loc : CloseLoc) : s.redact.closeAt i loc.redact = (s.closeAt i loc).redact := by
  simp only [St.closeAt, St.redact, List.map_set]

theorem sendAt_redact (loc : SendLoc) : s.redact.sendAt i loc.redact = (s.sendAt i loc).redact := by
  simp only [St.sendAt, St.redact, List.map_set]

theorem receiveAt_redact (loc : ReceiveLoc) :
    s.redact.receiveAt i loc.redact = (s.receiveAt i loc).redact := by
  simp only [St.receiveAt, St.redact, List.map_set]

/-- `close` goes by the state, and hands the outcome on. -/
theorem closeStep_redact (loc : CloseLoc) (a : CallAct) :
    closeStep s.redact i loc.redact a = (closeStep s i loc a).map St.redact := by
  cases a with
  | drop =>
    cases loc with
    | start => exact congrArg some (closeAt_redact s i .dropped)
    | waitState wait =>
      cases wait with
      | check => rfl
      | changed => exact congrArg some (closeAt_redact s i .dropped)
    | waitTasks terminal wait =>
      cases wait with
      | check => rfl
      | changed => exact congrArg some (closeAt_redact s i .dropped)
    | _ => rfl
  | next =>
    cases loc with
    | start =>
      dsimp only [CloseLoc.redact, closeStep]
      rw [St.redact_state, Watch.value_map, closedError_redact]
      cases s.cells.state.value.closedError with
      | none => exact congrArg some (closeAt_redact s i .guard)
      | some e => exact congrArg some (closeAt_redact s i (.waitTasks e (.check 0)))
    | guard | signal | earlyReturn =>
      simp only [closeStep, CloseLoc.redact, St.closeAt, St.redact, Option.map_some, List.map_set]
      rfl
    | spawn =>
      dsimp only [CloseLoc.redact, closeStep]
      rw [St.redact_state, Watch.version_map]
      simp only [St.closeAt, St.redact, Option.map_some, List.map_set]
      rfl
    | subscribe => exact congrArg some (closeAt_redact s i (.waitState (.check 0)))
    | swap =>
      dsimp only [CloseLoc.redact, closeStep]
      rw [St.redact_closing]
      cases s.cells.closing <;>
        simp only [St.closeAt, St.redact, Option.map_some, List.map_set] <;> rfl
    | transition =>
      dsimp only [CloseLoc.redact, closeStep]
      rw [St.redact_cells, Cells.publishClosing_redact]
      by_cases h : s.cells.state.value = .opened
      · have h' : s.cells.redact.state.value = .opened := (DriverState.redact_eq_opened _).mpr h
        rw [if_pos h, if_pos h']
        simp only [St.closeAt, St.redact, Option.map_some, List.map_set]
        rfl
      · have h' : ¬s.cells.redact.state.value = .opened := fun h' => h ((DriverState.redact_eq_opened _).mp h')
        rw [if_neg h, if_neg h']
        simp only [St.closeAt, St.redact, Option.map_some, List.map_set]
        rfl
    | arm =>
      dsimp only [CloseLoc.redact, closeStep]
      rw [St.redact_started]
      cases s.cells.closeTimeoutStarted <;>
        simp only [St.closeAt, St.redact, Option.map_some, List.map_set] <;> rfl
    | waitState wait =>
      have hstep : wait.step s.redact.cells.state DriverState.isTerminal =
          wait.step s.cells.state DriverState.isTerminal := Wait.step_map DriverState.isTerminal_redact
      dsimp only [CloseLoc.redact, closeStep]
      rw [hstep, St.redact_state, Watch.value_map, closedError_redact]
      rcases wait.step s.cells.state DriverState.isTerminal with _ | _ | wait
      · rfl
      · cases s.cells.state.value.closedError with
        | none => rfl
        | some e => exact congrArg some (closeAt_redact s i (.waitTasks e (.check 0)))
      · exact congrArg some (closeAt_redact s i (.waitState wait))
    | waitTasks terminal wait =>
      dsimp only [CloseLoc.redact, closeStep]
      rw [St.redact_tasks, closeResult_redact]
      rcases wait.step s.cells.tasksRemaining (· == 0) with _ | _ | wait
      · rfl
      · exact congrArg some (closeAt_redact s i (.returned (closeResult terminal)))
      · exact congrArg some (closeAt_redact s i (.waitTasks terminal wait))
    | _ => rfl

/-- `abort` publishes an outcome of its own. -/
theorem abortStep_redact (loc : AbortLoc) : abortStep s.redact i loc = (abortStep s i loc).map St.redact := by
  cases loc with
  | publish =>
    dsimp only [abortStep]
    rw [St.redact_cells]
    have h := Cells.publishTerminal_redact s.cells abandoned
    exact congrArg (fun cells => some { s.redact.abortAt i .signal with cells }) h
  | _ => rfl

/-- The command that a send hands over has no reason in it. -/
theorem sendHandOver_redact (config : ConnectionConfig) (loc : SendLoc) (message : Message) :
    sendStep config s.redact i loc.redact (.handOver message) =
      (sendStep config s i loc (.handOver message)).map St.redact := by
  cases loc with
  | admitted size =>
    dsimp only [SendLoc.redact, sendStep]
    by_cases h : message.len ≠ size
    · rw [if_pos h, if_pos h]
      simp only [St.sendAt, St.redact, Option.map_some, List.map_set]
      rfl
    · rw [if_neg h, if_neg h]
      have hrespond : s.redact.outbound.respond i .pending = (s.outbound.respond i .pending).redact :=
        Outbound.respond_redact s.outbound i .pending
      rw [hrespond]
      simp only [St.sendAt, St.redact, Option.map_some, List.map_set]
      rfl
  | _ => rfl

/-- A send goes on by the state, the size and the budgets. -/
theorem sendNext_redact (config : ConnectionConfig) (loc : SendLoc) :
    sendStep config s.redact i loc.redact .next = (sendStep config s i loc .next).map St.redact := by
  cases loc with
  | start size =>
    dsimp only [SendLoc.redact, sendStep]
    rw [St.redact_state, Watch.value_map, validate_redact]
    cases validateOutboundMessage config s.cells.state.value size with
    | error e => exact congrArg some (sendAt_redact s i (.refused (.validation s.cells.state.value) e))
    | ok =>
      refine congrArg some ?_
      dsimp only [Except.mapError]
      by_cases h : size > u32Max
      · rw [if_pos h]
        exact sendAt_redact s i (.refused .unsupported unsupportedSize)
      · rw [if_neg h]
        exact sendAt_redact s i (.acquire size)
  | acquire size =>
    refine congrArg some ?_
    rw [apply_ite St.redact]
    refine if_congr Iff.rfl ?_ (sendAt_redact s i (.refused .bytesExhausted bytesExhausted))
    simp only [St.sendAt, St.redact, List.map_set]
    rfl
  | reserve size =>
    dsimp only [SendLoc.redact, sendStep]
    rw [St.redact_channel]
    cases s.outbound.channel.tryReserve with
    | ok channel =>
      simp only [St.sendAt, St.redact, Option.map_some, List.map_set]
      rfl
    | error why =>
      cases why with
      | full => exact congrArg some (sendAt_redact s i (.giveBack size .queueFull queueFull))
      | closed => exact congrArg some (sendAt_redact s i (.refuse size))
  | refuse size =>
    dsimp only [SendLoc.redact, sendStep]
    rw [St.redact_state, Watch.value_map, terminalError_redact]
    exact congrArg some (sendAt_redact s i (.giveBack size .channelClosed _))
  | giveBack size why error =>
    simp only [sendStep, SendLoc.redact, St.sendAt, St.redact, Option.map_some, List.map_set]
    rfl
  | response =>
    dsimp only [SendLoc.redact, sendStep]
    rw [St.redact_responses]
    cases s.outbound.responses i with
    | answered result => exact congrArg some (sendAt_redact s i (.returned result))
    | dropped => exact congrArg some (sendAt_redact s i .terminal)
    | _ => rfl
  | terminal =>
    dsimp only [SendLoc.redact, sendStep]
    rw [St.redact_state, Watch.value_map, terminalError_redact]
    exact congrArg some (sendAt_redact s i (.returned (.error _)))
  | _ => rfl

theorem sendStep_redact (config : ConnectionConfig) (loc : SendLoc) (a : SendAct) :
    sendStep config s.redact i loc.redact a = (sendStep config s i loc a).map St.redact := by
  cases a with
  | drop =>
    cases loc with
    | admitted size =>
      simp only [sendStep, SendLoc.redact, St.sendAt, St.redact, Option.map_some, List.map_set]
      rfl
    | response => exact congrArg some (sendAt_redact s i .dropped)
    | _ => rfl
  | handOver message => exact sendHandOver_redact s i config loc message
  | next => exact sendNext_redact s i config loc

/-- A receive goes by the channel, and by the state once that has ended. -/
theorem receiveStep_redact (loc : ReceiveLoc) (a : CallAct) :
    receiveStep s.redact i loc.redact a = (receiveStep s i loc a).map St.redact := by
  cases a with
  | drop =>
    cases loc with
    | start => exact congrArg some (receiveAt_redact s i .dropped)
    | lock | recv =>
      simp only [receiveStep, ReceiveLoc.redact, St.receiveAt, St.redact, Option.map_some, List.map_set]
    | _ => rfl
  | next =>
    cases loc with
    | start =>
      dsimp only [ReceiveLoc.redact, receiveStep]
      rw [St.redact_inbound]
      cases s.inbound.receiveActive with
      | true => exact congrArg some (receiveAt_redact s i (.returned (.error receiveBusy)))
      | false =>
        simp only [Bool.false_eq_true, if_false, St.receiveAt, St.redact, Option.map_some, List.map_set]
        rfl
    | lock =>
      dsimp only [ReceiveLoc.redact, receiveStep]
      rw [St.redact_inbound]
      cases s.inbound.locked with
      | true => rfl
      | false =>
        simp only [Bool.false_eq_true, if_false, St.receiveAt, St.redact, Option.map_some, List.map_set]
        rfl
    | recv =>
      dsimp only [ReceiveLoc.redact, receiveStep]
      rw [St.redact_inbound, St.redact_readerLoc, ReaderLoc.isDone_redact]
      rcases s.inbound.channel.recv with _ | ⟨envelope, channel⟩
      · cases s.reader.loc.isDone with
        | true => exact congrArg some (receiveAt_redact s i .terminal)
        | false => rfl
      · simp only [St.receiveAt, St.redact, Option.map_some, List.map_set]
        rfl
    | took message permit =>
      simp only [receiveStep, ReceiveLoc.redact, St.receiveAt, St.redact, Option.map_some, List.map_set]
      rfl
    | terminal =>
      dsimp only [ReceiveLoc.redact, receiveStep]
      rw [St.redact_state, Watch.value_map, terminalError_redact]
      exact congrArg some (receiveAt_redact s i (.finish (.error _)))
    | finish result =>
      cases result <;>
        simp only [receiveStep, ReceiveLoc.redact, Except.mapError, St.receiveAt, St.redact, Option.map_some,
          List.map_set]
    | _ => rfl

end Calls

/-! ### The driver -/

/-- Whether a call is over does not depend on what it was told. -/
theorem idle_redact (s : St) : s.redact.idle = s.idle := by
  have hcloses : (s.closes.map CloseLoc.redact).all CloseLoc.isOver = s.closes.all CloseLoc.isOver := by
    rw [List.all_map]
    exact congrArg _ (funext fun loc => by cases loc <;> rfl)
  have hsends : (s.sends.map SendLoc.redact).all SendLoc.isOver = s.sends.all SendLoc.isOver := by
    rw [List.all_map]
    exact congrArg _ (funext fun loc => by cases loc <;> rfl)
  have hreceives :
      (s.receives.map ReceiveLoc.redact).all ReceiveLoc.isOver = s.receives.all ReceiveLoc.isOver := by
    rw [List.all_map]
    exact congrArg _ (funext fun loc => by cases loc <;> rfl)
  simp only [St.idle, St.redact, hcloses, hsends, hreceives]

/-- What the last handle drops has no reason in it. -/
theorem dropFields_redact (s : St) : dropFields s.redact = (dropFields s).redact := by
  unfold dropFields
  rw [St.redact_inbound, St.redact_channel, St.redact_outbound, Outbound.discard_redact]
  cases s.outbound.channel.closed <;> rfl

/-- A call's next step, where calls are renamed. -/
theorem bind_redact {α : Type} {locs : List α} {f : α → α} {i : Nat} {g g' : α → Option St}
    (h : ∀ loc, g' (f loc) = (g loc).map St.redact) :
    (locs.map f)[i]?.bind g' = (locs[i]?.bind g).map St.redact := by
  rw [List.getElem?_map]
  cases locs[i]? with
  | none => rfl
  | some loc => exact h loc

/-- **A step with the reasons blanked is the step, with the reasons blanked.** -/
theorem step_redact (config : ConnectionConfig) (s : St) (l : Label) :
    step config s.redact l.redact = (step config s l).map St.redact := by
  cases l with
  | reader a => exact readerStep_redact s s.reader.loc a
  | writer a => exact writerStep_redact s s.writer.loc a
  | watchdog i a =>
    dsimp only [Label.redact, step]
    rw [St.redact_watchdogs]
    cases s.watchdogs[i]? with
    | none => rfl
    | some loc => exact watchdogStep_redact s i loc a
  | close i a => exact bind_redact fun loc => closeStep_redact s i loc a
  | abort i =>
    dsimp only [Label.redact, step]
    rw [St.redact_aborts]
    cases s.aborts[i]? with
    | none => rfl
    | some loc => exact abortStep_redact s i loc
  | send i a => exact bind_redact fun loc => sendStep_redact s i config loc a
  | receive i a => exact bind_redact fun loc => receiveStep_redact s i loc a
  | callAbort =>
    dsimp only [Label.redact, step]
    rw [apply_ite (Option.map St.redact)]
    exact if_congr Iff.rfl rfl rfl
  | callClose | callAdmit | callReceive =>
    dsimp only [Label.redact, step]
    rw [apply_ite (Option.map St.redact)]
    refine if_congr Iff.rfl ?_ rfl
    simp only [St.redact, Option.map_some, List.map_append]
    rfl
  | dropDriver =>
    dsimp only [Label.redact, step]
    rw [apply_ite (Option.map St.redact)]
    exact if_congr (by rw [idle_redact]; rfl) rfl rfl
  | dropFields =>
    dsimp only [Label.redact, step]
    rw [apply_ite (Option.map St.redact), dropFields_redact]
    exact if_congr Iff.rfl rfl rfl

/-! ## Two runs that differ in the reasons -/

/-- All of an exception but its `reason`. -/
def PyErr.redact (e : PyErr) : PyErr := { e with close := e.close.map fun info => { info with reason := "" } }

/-- Type, message, code and initiator are made without the reason (py.rs:255). -/
theorem driverErrorToPython_redact (e : DriverError) :
    driverErrorToPython e.redact = (driverErrorToPython e).redact := by
  cases e <;> rfl

/-- The exceptions of two errors are of one type, with one message, one code and one initiator. -/
abbrev SameButReason (e e' : DriverError) : Prop :=
  (driverErrorToPython e').redact = (driverErrorToPython e).redact

/-- Nobody on this side can tell the two states apart, but by the `reason` of an exception. -/
structure Indistinct (s s' : St) : Prop where
  internals : s'.redact = s.redact
  /-- What the writer has passed to the sink. -/
  sunk : s'.hist.passed = s.hist.passed ∧ s'.hist.closeFrames = s.hist.closeFrames
  delivered : s'.hist.returned = s.hist.returned
  received : ∀ (i : Nat) e, s.receives[i]? = some (.returned (.error e)) →
    ∃ e', s'.receives[i]? = some (.returned (.error e')) ∧ SameButReason e e'
  sent : ∀ (i : Nat) e, s.sends[i]? = some (.returned (.error e)) →
    ∃ e', s'.sends[i]? = some (.returned (.error e')) ∧ SameButReason e e'
  refused : ∀ (i : Nat) why e, s.sends[i]? = some (.refused why e) →
    ∃ why' e', s'.sends[i]? = some (.refused why' e') ∧ SameButReason e e'
  mismatched : ∀ (i : Nat) e, s.sends[i]? = some (.mismatched e) →
    ∃ e', s'.sends[i]? = some (.mismatched e') ∧ SameButReason e e'
  closed : ∀ (i : Nat) e, s.closes[i]? = some (.returned (.error e)) →
    ∃ e', s'.closes[i]? = some (.returned (.error e')) ∧ SameButReason e e'

theorem CloseLoc.of_redact {loc : CloseLoc} {e : DriverError} (h : loc.redact = .returned (.error e)) :
    ∃ e', loc = .returned (.error e') ∧ e'.redact = e := by
  cases loc with
  | returned r =>
    cases r with
    | ok => cases h
    | error e' => exact ⟨e', rfl, Except.error.inj (CloseLoc.returned.inj h)⟩
  | _ => cases h

theorem SendLoc.of_redact {loc : SendLoc} {e : DriverError} (h : loc.redact = .returned (.error e)) :
    ∃ e', loc = .returned (.error e') ∧ e'.redact = e := by
  cases loc with
  | returned r =>
    cases r with
    | ok => cases h
    | error e' => exact ⟨e', rfl, Except.error.inj (SendLoc.returned.inj h)⟩
  | _ => cases h

theorem SendLoc.refused_of_redact {loc : SendLoc} {why : Refusal} {e : DriverError}
    (h : loc.redact = .refused why e) : ∃ why' e', loc = .refused why' e' ∧ e'.redact = e := by
  cases loc with
  | refused why' e' => exact ⟨why', e', rfl, (SendLoc.refused.inj h).2⟩
  | _ => cases h

theorem SendLoc.mismatched_of_redact {loc : SendLoc} {e : DriverError}
    (h : loc.redact = .mismatched e) : ∃ e', loc = .mismatched e' ∧ e'.redact = e := by
  cases loc with
  | mismatched e' => exact ⟨e', rfl, SendLoc.mismatched.inj h⟩
  | _ => cases h

theorem ReceiveLoc.of_redact {loc : ReceiveLoc} {e : DriverError} (h : loc.redact = .returned (.error e)) :
    ∃ e', loc = .returned (.error e') ∧ e'.redact = e := by
  cases loc with
  | returned r =>
    cases r with
    | ok => cases h
    | error e' => exact ⟨e', rfl, Except.error.inj (ReceiveLoc.returned.inj h)⟩
  | _ => cases h

/-- What two lists that agree up to a renaming hold at one place. -/
theorem getElem?_of_map_eq {α : Type} {f : α → α} {xs ys : List α} {i : Nat} {x : α}
    (h : ys.map f = xs.map f) (hx : xs[i]? = some x) : ∃ y, ys[i]? = some y ∧ f y = f x := by
  have hy : (ys.map f)[i]? = some (f x) := by rw [h, List.getElem?_map, hx]; rfl
  rw [List.getElem?_map] at hy
  obtain ⟨y, hy, hfy⟩ := Option.map_eq_some_iff.mp hy
  exact ⟨y, hy, hfy⟩

/-- Errors that are the same but for the reason make exceptions that are. -/
theorem sameButReason {e e' : DriverError} (h : e'.redact = e.redact) : SameButReason e e' := by
  unfold SameButReason
  rw [← driverErrorToPython_redact, h, driverErrorToPython_redact]

/-- States that are the same once blanked can be told apart by the reasons only. -/
theorem indistinct {s s' : St} (h : s'.redact = s.redact) : Indistinct s s' where
  internals := h
  sunk := ⟨congrArg (·.hist.passed) h, congrArg (·.hist.closeFrames) h⟩
  delivered := congrArg (·.hist.returned) h
  received i e hi := by
    obtain ⟨loc, hloc, heq⟩ := getElem?_of_map_eq (congrArg (·.receives) h) hi
    obtain ⟨e', rfl, he⟩ := ReceiveLoc.of_redact heq
    exact ⟨e', hloc, sameButReason he⟩
  sent i e hi := by
    obtain ⟨loc, hloc, heq⟩ := getElem?_of_map_eq (congrArg (·.sends) h) hi
    obtain ⟨e', rfl, he⟩ := SendLoc.of_redact heq
    exact ⟨e', hloc, sameButReason he⟩
  refused i why e hi := by
    obtain ⟨loc, hloc, heq⟩ := getElem?_of_map_eq (congrArg (·.sends) h) hi
    obtain ⟨why', e', rfl, he⟩ := SendLoc.refused_of_redact heq
    exact ⟨why', e', hloc, sameButReason he⟩
  mismatched i e hi := by
    obtain ⟨loc, hloc, heq⟩ := getElem?_of_map_eq (congrArg (·.sends) h) hi
    obtain ⟨e', rfl, he⟩ := SendLoc.mismatched_of_redact heq
    exact ⟨e', hloc, sameButReason he⟩
  closed i e hi := by
    obtain ⟨loc, hloc, heq⟩ := getElem?_of_map_eq (congrArg (·.closes) h) hi
    obtain ⟨e', rfl, he⟩ := CloseLoc.of_redact heq
    exact ⟨e', hloc, sameButReason he⟩

/-- **The reason of a Close frame is told, and acted upon by nobody in the driver.** Take a run, and let the
library hand over other reasons: the driver takes the same steps, and ends in a state that differs from the
first in the `reason` of exceptions and in nothing else. Their messages are the same, so a reason forges no
line of a log. -/
theorem reason_contained (config : ConnectionConfig) (ls ls' : List Label) (s : St)
    (hrun : HandedRun config ls s) (hsame : ls'.map Label.redact = ls.map Label.redact)
    (hhanded : ∀ l ∈ ls', l.handed config = true) : ∃ s', HandedRun config ls' s' ∧ Indistinct s s' := by
  have hls := Lts.run_rename (step_redact config) (start config) ls
  have hls' := Lts.run_rename (step_redact config) (start config) ls'
  rw [hsame, hls, hrun.run_eq] at hls'
  obtain ⟨s', hs', heq⟩ := Option.map_eq_some_iff.mp hls'.symm
  exact ⟨s', Lts.path_of_labels hs' hhanded, indistinct heq⟩

/-- The peer refuses with this reason, and `close` is told. -/
def refusedRun (reason : String) : List Label :=
  [.reader .next, .reader .next, .reader (.item (some (.ok (.close (some ⟨1011, reason⟩))))), .reader .next,
    .reader .next, .reader .next, .reader .next, .writer .next, .writer .next, .writer .next, .writer .sinkOk,
    .writer .next, .writer .next, .writer .next, .writer .next, .reader .next, .reader .next, .reader .next,
    .reader .next, .callClose, .close 0 .next, .close 0 .next]

theorem reason_contained_forged : ∃ s', HandedRun .small (refusedRun "failed\nforged-log-entry") s' ∧
    Indistinct (Lts.after (step .small) (start .small) (refusedRun "")) s' :=
  reason_contained .small (refusedRun "") _ _ (Lts.path_of_labels (Lts.run_after rfl) (by decide)) rfl
    (by decide)

end FogWS
