import FogWS.Evolution
import FogWS.Frames
/-!
# The life cycle

What every task and call knows about the cells at each of its locations (`Ok`), and the proof that
each step re-establishes it for the process that moves and keeps it for all the others. The others
are free: every `Ok` is monotone in `Cells.Evolves` (`Ok.mono`), and every step evolves the cells.
-/
namespace FogWS

/-! ## What each location knows -/

/-- What the reader knows at a location, with its receiver at version `seen` of the signal. -/
def ReaderLoc.Ok (c : Cells) (seen : Nat) : ReaderLoc → Prop
  | .select => seen = c.shutdown.version → c.shutdown.value ≠ .abort
  | .acquire _ | .send _ _ => seen = c.shutdown.version → c.shutdown.value = .running
  | .finish _ => c.closing = true
  | .finishSignal _ => 2 ≤ c.state.value.rank
  | .finishSubscribe _ | .finishExpired _ => 2 ≤ c.shutdown.value.rank
  | .finishWait _ wait => 2 ≤ c.shutdown.value.rank ∧ wait.Ok c.state isTerminalState
  | .failureAbort => 3 ≤ c.shutdown.value.rank
  | .finishAbort | .failureSignal | .leave | .returned | .finished => 3 ≤ c.state.value.rank
  | _ => True

def Reader.Ok (c : Cells) (r : Reader) : Prop :=
  r.seen ≤ c.shutdown.version ∧ r.loc.Ok c r.seen

/-- What the writer knows at a location, with its receiver at version `seen` of the signal. -/
def WriterLoc.Ok (c : Cells) (seen : Nat) : WriterLoc → Prop
  | .onShutdown | .closeSend => 1 ≤ c.shutdown.value.rank
  | .handshake wait => 1 ≤ c.shutdown.value.rank ∧ wait.Ok c.shutdown handshakeOver
  | .closeSignal | .closeFlush | .closeOk => 2 ≤ c.shutdown.value.rank
  | .closePublish outcome => c.state.value = .peerClosed outcome ∨ 3 ≤ c.state.value.rank
  | .fail _ _ => True
  | .failSignal terminal _ => c.state.value = .closed terminal
  | .failAnswer terminal _ => c.state.value = .closed terminal ∧ 3 ≤ c.shutdown.value.rank
  | .leave _ | .returned | .finished => 3 ≤ c.state.value.rank
  | .unstarted | .select | .events | .flushStart | .flush | .sendStart _ | .send _ | .answer _
  | .release _ => seen = c.shutdown.version → c.shutdown.value = .running

def Writer.Ok (c : Cells) (w : Writer) : Prop :=
  w.seen ≤ c.shutdown.version ∧ w.loc.Ok c w.seen

def WatchdogLoc.Ok (c : Cells) : WatchdogLoc → Prop
  | .sleep wait => 1 ≤ c.state.value.rank ∧ wait.Ok c.state isTerminalState
  | .expired => 1 ≤ c.state.value.rank
  | .abortReader | .abortWriter | .returned | .finished => 3 ≤ c.state.value.rank

def CloseLoc.Ok (c : Cells) : CloseLoc → Prop
  | .transition => c.closing = true
  | .signal | .arm | .spawn => 1 ≤ c.state.value.rank
  | .waitState wait => wait.Ok c.state DriverState.isTerminal
  | .waitTasks terminal wait =>
    c.state.value = .closed terminal ∧ wait.Ok c.tasksRemaining (· == 0)
  | .returned result => ∃ e, c.state.value = .closed e ∧ result = closeResult e
  | _ => True

def AbortLoc.Ok (c : Cells) : AbortLoc → Prop
  | .store => True
  | .publish => c.closing = true
  | .signal => 3 ≤ c.state.value.rank
  | .abortReader => 3 ≤ c.shutdown.value.rank
  | .abortWriter => 3 ≤ c.shutdown.value.rank ∧ c.readerAbort = true
  | .done => 3 ≤ c.shutdown.value.rank ∧ c.readerAbort = true ∧ c.writerAbort = true

/-! ## All of it is monotone -/

section Mono

variable {c c' : Cells} (h : c.Evolves c')
include h

/-- A fact about the current signal that holds as long as its version has been seen. -/
theorem seen_mono {P : ShutdownSignal → Prop} {seen : Nat} (hs : seen ≤ c.shutdown.version)
    (hP : seen = c.shutdown.version → P c.shutdown.value) :
    seen = c'.shutdown.version → P c'.shutdown.value := by
  intro he
  have hv : c.shutdown.version = c'.shutdown.version :=
    Nat.le_antisymm h.shutdown.version_le (he ▸ hs)
  rw [← h.shutdown.eq_of_version hv]
  exact hP (he.trans hv.symm)

theorem Reader.Ok.mono {r : Reader} (hr : r.Ok c) : r.Ok c' := by
  obtain ⟨hseen, hloc⟩ := hr
  refine ⟨Nat.le_trans hseen h.shutdown.version_le, ?_⟩
  have h1 := h.rank_le
  have h2 := h.signal_le
  obtain ⟨loc, seen⟩ := r
  cases loc with
  | select => exact seen_mono (P := (· ≠ .abort)) h hseen hloc
  | acquire => exact seen_mono (P := (· = .running)) h hseen hloc
  | send => exact seen_mono (P := (· = .running)) h hseen hloc
  | finish => exact h.closing hloc
  | finishWait => exact ⟨Nat.le_trans hloc.1 h2, hloc.2.ext h.state⟩
  | finishSubscribe | finishExpired | failureAbort => exact Nat.le_trans hloc h2
  | finishSignal | finishAbort | failureSignal | leave | returned | finished =>
    exact Nat.le_trans hloc h1
  | _ => trivial

theorem Writer.Ok.mono {w : Writer} (hw : w.Ok c) : w.Ok c' := by
  obtain ⟨hseen, hloc⟩ := hw
  refine ⟨Nat.le_trans hseen h.shutdown.version_le, ?_⟩
  have h1 := h.rank_le
  have h2 := h.signal_le
  obtain ⟨loc, seen⟩ := w
  cases loc with
  | onShutdown | closeSend | closeSignal | closeFlush | closeOk => exact Nat.le_trans hloc h2
  | handshake => exact ⟨Nat.le_trans hloc.1 h2, hloc.2.ext h.shutdown⟩
  | closePublish outcome =>
    rcases hloc with hp | hc
    · have hf := h.forward
      rw [hp] at hf
      rcases hf with he | hlt
      · exact .inl he.symm
      · exact .inr hlt
    · exact .inr (Nat.le_trans hc h1)
  | fail => trivial
  | failSignal => exact h.closed hloc
  | failAnswer => exact ⟨h.closed hloc.1, Nat.le_trans hloc.2 h2⟩
  | leave | returned | finished => exact Nat.le_trans hloc h1
  | _ => exact seen_mono (P := (· = .running)) h hseen hloc

theorem WatchdogLoc.Ok.mono {w : WatchdogLoc} (hw : w.Ok c) : w.Ok c' := by
  have h1 := h.rank_le
  cases w with
  | sleep => exact ⟨Nat.le_trans hw.1 h1, hw.2.ext h.state⟩
  | _ => exact Nat.le_trans hw h1

theorem CloseLoc.Ok.mono {l : CloseLoc} (hl : l.Ok c) : l.Ok c' := by
  have h1 := h.rank_le
  cases l with
  | transition => exact h.closing hl
  | signal | arm | spawn => exact Nat.le_trans hl h1
  | waitState => exact Wait.Ok.ext h.state hl
  | waitTasks => exact ⟨h.closed hl.1, hl.2.ext h.tasks⟩
  | returned =>
    obtain ⟨e, he, hr⟩ := hl
    exact ⟨e, h.closed he, hr⟩
  | _ => trivial

theorem AbortLoc.Ok.mono {l : AbortLoc} (hl : l.Ok c) : l.Ok c' := by
  have h1 := h.rank_le
  have h2 := h.signal_le
  cases l with
  | store => trivial
  | publish => exact h.closing hl
  | signal => exact Nat.le_trans hl h1
  | abortReader => exact Nat.le_trans hl h2
  | abortWriter => exact ⟨Nat.le_trans hl.1 h2, h.readerAbort hl.2⟩
  | done => exact ⟨Nat.le_trans hl.1 h2, h.readerAbort hl.2.1, h.writerAbort hl.2.2⟩

end Mono

/-! ## The steps of the tasks -/

/-- What a step of a process that stands well leaves behind. -/
structure Keeps (c c' : Cells) : Prop where
  evolves : c.Evolves c'
  coherent : c'.Coherent

theorem Keeps.refl {c : Cells} (hc : c.Coherent) : Keeps c c := ⟨.refl c, hc⟩

theorem conclude_receiveFailure_ok (c : Cells) (seen : Nat) (e : WsError) :
    (ReaderLoc.conclude (receiveFailure c.closing e)).Ok c seen := by
  unfold ReaderLoc.conclude receiveFailure
  split
  · exact And.left ‹_›
  · trivial

theorem conclude_streamEnd_ok (c : Cells) (seen : Nat) :
    (ReaderLoc.conclude (streamEnd c.closing)).Ok c seen := by
  unfold ReaderLoc.conclude streamEnd
  split
  · assumption
  · trivial

theorem readerStep_ok {s s' : St} {loc : ReaderLoc} {a : ReaderAct} (hc : s.cells.Coherent)
    (hseen : s.reader.seen ≤ s.cells.shutdown.version) (hloc : loc.Ok s.cells s.reader.seen)
    (h : readerStep s loc a = some s') : Keeps s.cells s'.cells ∧ s'.reader.Ok s'.cells := by
  -- on an `Abort` signal the state is closed
  have habort : s.cells.shutdown.value = .abort → 3 ≤ s.cells.state.value.rank := fun ha => by
    have := hc.signal_le
    rw [ha] at this; exact this
  cases readerStep_rule h with
  | topAbort ha | changedAbort ha => exact ⟨.refl hc, hseen, habort ha⟩
  | top ha => exact ⟨.refl hc, hseen, fun _ => ha⟩
  | selectChanged | acquireChanged | sendChanged => exact ⟨.refl hc, Nat.le_refl _, trivial⟩
  | queue _ hrun => exact ⟨.refl hc, hseen, fun _ => hrun⟩
  | acquire => exact ⟨.refl hc, hseen, hloc⟩
  | closeMark => exact ⟨⟨Cells.evolves_closing _, hc.setClosing⟩, hseen, rfl⟩
  | errTaken => exact ⟨.refl hc, hseen, conclude_receiveFailure_ok _ _ _⟩
  | ended => exact ⟨.refl hc, hseen, conclude_streamEnd_ok _ _⟩
  | finish =>
    exact ⟨⟨Cells.evolves_publishPeerClosed _ _, hc.publishPeerClosed _ hloc⟩, hseen,
      Cells.publishPeerClosed_rank _ _⟩
  | finishSignal =>
    refine ⟨⟨Cells.evolves_signalPeerClose _, hc.signalPeerClose hloc⟩,
      Nat.le_trans hseen (Cells.evolves_signalPeerClose _).shutdown.version_le, ?_⟩
    have := Cells.signalPeerClose_value s.cells
    simp only [St.readerAt, ReaderLoc.Ok]
    rw [this]
    split
    · exact Nat.le_refl _
    · omega
  | finishSubscribe => exact ⟨.refl hc, hseen, hloc, Nat.le_refl _⟩
  | finishOver _ _ hw =>
    exact ⟨.refl hc, hseen, DriverState.isTerminal_iff.mp (Wait.done_of_exit hw)⟩
  | finishWait _ _ _ hw => exact ⟨.refl hc, hseen, hloc.1, hloc.2.step hw⟩
  | finishTimer => exact ⟨.refl hc, hseen, hloc.1⟩
  | finishExpired | failure =>
    exact ⟨⟨Cells.evolves_publishTerminal _ _, hc.publishTerminal _⟩, hseen,
      Cells.publishTerminal_rank _ _⟩
  | finishAbort => exact ⟨⟨Cells.evolves_writerAbort _, hc.setWriterAbort hloc⟩, hseen, hloc⟩
  | failureSignal =>
    refine ⟨⟨Cells.evolves_signalAbort _, hc.signalAbort hloc⟩,
      Nat.le_trans hseen (Cells.evolves_signalAbort _).shutdown.version_le, ?_⟩
    simp only [St.readerAt, ReaderLoc.Ok, Cells.signalAbort_value]
    exact Nat.le_refl _
  | failureAbort =>
    have := Nat.le_trans hloc hc.signal_le
    exact ⟨⟨Cells.evolves_writerAbort _, hc.setWriterAbort this⟩, hseen, this⟩
  | leave => exact ⟨.refl hc, hseen, hloc⟩
  | returned => exact ⟨⟨Cells.evolves_guardDrop _, hc.guardDrop⟩, hseen, hloc⟩
  | kill _ hab => exact ⟨.refl hc, hseen, hc.aborted (.inl hab)⟩
  | _ => exact ⟨.refl hc, hseen, trivial⟩

theorem writerChanged_ok {s : St} (hc : s.cells.Coherent)
    (hlt : s.writer.seen < s.cells.shutdown.version) :
    Keeps s.cells (writerChanged s).cells ∧ (writerChanged s).writer.Ok (writerChanged s).cells :=
  ⟨.refl hc, Nat.le_refl _, hc.signal_pos hlt⟩

theorem writerStep_ok {s s' : St} {loc : WriterLoc} {a : WriterAct} (hc : s.cells.Coherent)
    (hseen : s.writer.seen ≤ s.cells.shutdown.version) (hloc : loc.Ok s.cells s.writer.seen)
    (hd : s.driver = .dropped → 3 ≤ s.cells.state.value.rank) (h : writerStep s loc a = some s') :
    Keeps s.cells s'.cells ∧ s'.writer.Ok s'.cells := by
  have hle := hc.signal_le
  cases writerStep_rule h with
  | selectChanged hlt | eventsChanged hlt => exact writerChanged_ok hc hlt
  | running hrun => exact ⟨.refl hc, hseen, fun _ => hrun⟩
  | aborted hs =>
    rw [hs] at hle; exact ⟨.refl hc, hseen, hle⟩
  | peerClose hs =>
    refine ⟨.refl hc, hseen, ?_⟩
    simp only [St.writerAt, WriterLoc.Ok, hs]
    exact Nat.le_refl _
  | driverGone _ hdropped => exact ⟨.refl hc, hseen, hd hdropped⟩
  | readerGone | flushFailed | sendFailed | closeSendFailed | closeFlushFailed =>
    exact ⟨.refl hc, hseen, trivial⟩
  | closeSent => exact ⟨.refl hc, hseen, hloc, hseen⟩
  | handshakeOver _ hx =>
    refine ⟨.refl hc, hseen, ?_⟩
    have hover := Wait.done_of_exit hx
    have hpos := hloc.1
    simp only [St.writerAt, WriterLoc.Ok]
    cases hs : s.cells.shutdown.value <;> simp_all [handshakeOver, ShutdownSignal.rank]
  | handshake _ _ hw => exact ⟨.refl hc, hseen, hloc.1, hloc.2.step hw⟩
  | closeOkPeer outcome ho =>
    refine ⟨.refl hc, hseen, .inl ?_⟩
    cases hs : s.cells.state.value <;> rw [hs] at ho <;> cases ho
    exact hs
  | closeOk ho =>
    -- the signal has passed `PeerClose`, so the state has too
    have h2 := Nat.le_trans hloc hle
    refine ⟨.refl hc, hseen, show 3 ≤ s.cells.state.value.rank from ?_⟩
    cases hs : s.cells.state.value with
    | closed e => exact Nat.le_refl _
    | closing | opened => rw [hs] at h2; simp [DriverState.rank] at h2
    | peerClosed o => rw [hs] at ho; cases ho
  | closePublish =>
    exact ⟨⟨Cells.evolves_publishTerminal _ _, hc.publishTerminal _⟩, hseen,
      Cells.publishTerminal_rank _ _⟩
  | fail =>
    exact ⟨⟨Cells.evolves_publishWriterFailure _ _, hc.publishWriterFailure _⟩, hseen,
      Cells.publishWriterFailure_value _ _⟩
  | failSignalCommand terminal =>
    have h3 : 3 ≤ s.cells.state.value.rank := by rw [show _ = _ from hloc]; exact Nat.le_refl _
    exact ⟨⟨Cells.evolves_signalAbort _, hc.signalAbort h3⟩,
      Nat.le_trans hseen (Cells.evolves_signalAbort _).shutdown.version_le,
      hloc, by rw [Cells.signalAbort_value]; exact Nat.le_refl _⟩
  | failSignal terminal =>
    have h3 : 3 ≤ s.cells.state.value.rank := by rw [show _ = _ from hloc]; exact Nat.le_refl _
    exact ⟨⟨Cells.evolves_signalAbort _, hc.signalAbort h3⟩,
      Nat.le_trans hseen (Cells.evolves_signalAbort _).shutdown.version_le, h3⟩
  | failAnswer =>
    have h3 : 3 ≤ s.cells.state.value.rank := by rw [hloc.1]; exact Nat.le_refl _
    exact ⟨.refl hc, hseen, h3⟩
  | returned => exact ⟨⟨Cells.evolves_guardDrop _, hc.guardDrop⟩, hseen, hloc⟩
  | kill _ hab => exact ⟨.refl hc, hseen, hc.aborted (.inr hab)⟩
  | _ => exact ⟨.refl hc, hseen, hloc⟩

theorem watchdogStep_ok {s s' : St} {i : Nat} {loc : WatchdogLoc} {a : WatchdogAct}
    (hc : s.cells.Coherent) (hloc : loc.Ok s.cells) (h : watchdogStep s i loc a = some s') :
    Keeps s.cells s'.cells ∧ ∃ loc', s'.watchdogs = s.watchdogs.set i loc' ∧ loc'.Ok s'.cells := by
  cases watchdogStep_rule h with
  | sleepOver _ hw => exact ⟨.refl hc, _, rfl, DriverState.isTerminal_iff.mp (Wait.done_of_exit hw)⟩
  | sleep _ _ hw => exact ⟨.refl hc, _, rfl, hloc.1, hloc.2.step hw⟩
  | timer => exact ⟨.refl hc, _, rfl, hloc.1⟩
  | expired =>
    refine ⟨⟨Cells.evolves_publishCloseTimeout _, hc.publishCloseTimeout⟩, _, rfl, ?_⟩
    simp only [WatchdogLoc.Ok, Cells.publishCloseTimeout_value]
    exact Nat.le_refl _
  | abortReader => exact ⟨⟨Cells.evolves_readerAbort _, hc.setReaderAbort hloc⟩, _, rfl, hloc⟩
  | abortWriter => exact ⟨⟨Cells.evolves_writerAbort _, hc.setWriterAbort hloc⟩, _, rfl, hloc⟩
  | returned => exact ⟨⟨Cells.evolves_guardDrop _, hc.guardDrop⟩, _, rfl, hloc⟩

/-! ## The steps of the calls -/

theorem abortStep_ok {s s' : St} {i : Nat} {loc : AbortLoc} (hc : s.cells.Coherent)
    (hloc : loc.Ok s.cells) (h : abortStep s i loc = some s') :
    Keeps s.cells s'.cells ∧ ∃ loc', s'.aborts = s.aborts.set i loc' ∧ loc'.Ok s'.cells := by
  cases loc with
  | store => cases h; exact ⟨⟨Cells.evolves_closing _, hc.setClosing⟩, _, rfl, rfl⟩
  | publish =>
    cases h
    exact ⟨⟨Cells.evolves_publishTerminal _ _, hc.publishTerminal _⟩, _, rfl,
      Cells.publishTerminal_rank _ _⟩
  | signal =>
    cases h
    refine ⟨⟨Cells.evolves_signalAbort _, hc.signalAbort hloc⟩, _, rfl, ?_⟩
    simp only [AbortLoc.Ok, Cells.signalAbort_value]
    exact Nat.le_refl _
  | abortReader =>
    cases h
    exact ⟨⟨Cells.evolves_readerAbort _, hc.setReaderAbort (Nat.le_trans hloc hc.signal_le)⟩, _, rfl,
      hloc, rfl⟩
  | abortWriter =>
    cases h
    exact ⟨⟨Cells.evolves_writerAbort _, hc.setWriterAbort (Nat.le_trans hloc.1 hc.signal_le)⟩, _,
      rfl, hloc.1, hloc.2, rfl⟩
  | done => cases h

theorem DriverState.eq_closed_of_closedError {v : DriverState} {e : DriverError}
    (h : v.closedError = some e) : v = .closed e := by
  cases v with
  | closed e' => cases h; rfl
  | _ => cases h

/-- `begin_close` may also start a watchdog, which stands well from the start. -/
theorem closeStep_ok {s s' : St} {i : Nat} {loc : CloseLoc} {a : CallAct} (hc : s.cells.Coherent)
    (hloc : loc.Ok s.cells) (h : closeStep s i loc a = some s') :
    Keeps s.cells s'.cells ∧ (∃ loc', s'.closes = s.closes.set i loc' ∧ loc'.Ok s'.cells) ∧
      (s'.watchdogs = s.watchdogs ∨
        ∃ w, s'.watchdogs = s.watchdogs ++ [w] ∧ w.Ok s'.cells) := by
  cases closeStep_rule h with
  | startClosed error he =>
    refine ⟨.refl hc, ⟨_, rfl, ?_, Nat.zero_le _⟩, .inl rfl⟩
    exact DriverState.eq_closed_of_closedError he
  | guard => exact ⟨⟨Cells.evolves_guardNew _, hc.guardNew⟩, ⟨_, rfl, trivial⟩, .inl rfl⟩
  | swapAgain => exact ⟨⟨Cells.evolves_closing _, hc.setClosing⟩, ⟨_, rfl, trivial⟩, .inl rfl⟩
  | swap => exact ⟨⟨Cells.evolves_closing _, hc.setClosing⟩, ⟨_, rfl, rfl⟩, .inl rfl⟩
  | transition =>
    exact ⟨⟨Cells.evolves_publishClosing _, hc.publishClosing hloc⟩,
      ⟨_, rfl, Cells.publishClosing_rank _⟩, .inl rfl⟩
  | transitionLate =>
    exact ⟨⟨Cells.evolves_publishClosing _, hc.publishClosing hloc⟩, ⟨_, rfl, trivial⟩, .inl rfl⟩
  | signal =>
    exact ⟨⟨Cells.evolves_signalLocalClose _, hc.signalLocalClose hloc⟩, ⟨_, rfl, hloc⟩, .inl rfl⟩
  | armAgain => exact ⟨⟨Cells.evolves_started _, hc.setStarted⟩, ⟨_, rfl, trivial⟩, .inl rfl⟩
  | arm => exact ⟨⟨Cells.evolves_started _, hc.setStarted⟩, ⟨_, rfl, hloc⟩, .inl rfl⟩
  | spawn => exact ⟨.refl hc, ⟨_, rfl, trivial⟩, .inr ⟨_, rfl, hloc, Nat.le_refl _⟩⟩
  | earlyReturn => exact ⟨⟨Cells.evolves_guardDrop _, hc.guardDrop⟩, ⟨_, rfl, trivial⟩, .inl rfl⟩
  | subscribe => exact ⟨.refl hc, ⟨_, rfl, Nat.zero_le _⟩, .inl rfl⟩
  | waitStateOver _ _ _ he =>
    exact ⟨.refl hc, ⟨_, rfl, DriverState.eq_closed_of_closedError he, Nat.zero_le _⟩, .inl rfl⟩
  | waitState _ _ hw => exact ⟨.refl hc, ⟨_, rfl, Wait.Ok.step hloc hw⟩, .inl rfl⟩
  | waitTasksOver => exact ⟨.refl hc, ⟨_, rfl, _, hloc.1, rfl⟩, .inl rfl⟩
  | waitTasks _ _ _ hw => exact ⟨.refl hc, ⟨_, rfl, hloc.1, hloc.2.step hw⟩, .inl rfl⟩
  | start | dropStart | dropWaitState | dropWaitTasks =>
    exact ⟨.refl hc, ⟨_, rfl, trivial⟩, .inl rfl⟩

/-! ## The invariant -/

/-- Every task and call stands well. -/
structure Lifecycle (s : St) : Prop where
  cells : s.cells.Coherent
  reader : s.reader.Ok s.cells
  writer : s.writer.Ok s.cells
  watchdogs : ∀ l ∈ s.watchdogs, l.Ok s.cells
  closes : ∀ l ∈ s.closes, l.Ok s.cells
  aborts : ∀ l ∈ s.aborts, l.Ok s.cells
  dropping : s.driver ≠ .alive → s.aborts ≠ []
  dropped : s.driver = .dropped → 3 ≤ s.cells.state.value.rank

theorem lifecycle_start (config : ConnectionConfig) : Lifecycle (start config) where
  cells := ⟨Nat.le_refl _, fun h => absurd h (Nat.lt_irrefl _), .channel _ _, .channel _ _, fun h => by
    rcases h with h | h <;> cases h⟩
  reader := ⟨Nat.le_refl _, trivial⟩
  writer := ⟨Nat.le_refl _, fun _ => rfl⟩
  watchdogs := List.forall_mem_nil _
  closes := List.forall_mem_nil _
  aborts := List.forall_mem_nil _
  dropping := fun h => absurd rfl h
  dropped := nofun

variable {config : ConnectionConfig} {s s' : St} {l : Label}

/-- A step that moves no process but the calls of `send` and `receive`. -/
theorem Lifecycle.of_frame (h : Lifecycle s) (hc : s'.cells = s.cells) (hr : s'.reader = s.reader)
    (hw : s'.writer = s.writer) (hwd : s'.watchdogs = s.watchdogs) (hcl : s'.closes = s.closes)
    (hab : s'.aborts = s.aborts) (hd : s'.driver = s.driver) : Lifecycle s' := by
  obtain ⟨h1, h2, h3, h4, h5, h6, h7, h8⟩ := h
  constructor <;> simp only [hc, hr, hw, hwd, hcl, hab, hd] <;> assumption

/-- A finished `abort` leaves the state closed. -/
theorem Lifecycle.closed_of_abort (h : Lifecycle s) {a : AbortLoc} (ha : a ∈ s.aborts)
    (hover : a.isOver = true) : 3 ≤ s.cells.state.value.rank := by
  cases a with
  | done => exact Nat.le_trans (h.aborts _ ha).1 h.cells.signal_le
  | _ => cases hover

/-- **Every step keeps the life cycle invariant, and moves the cells forward.** -/
theorem lifecycle_step (h : Lifecycle s) (hst : step config s l = some s') :
    Lifecycle s' ∧ s.cells.Evolves s'.cells := by
  have hd3 := h.dropped
  cases step_move hst with
  | reader f hst =>
    obtain ⟨⟨he, hc⟩, hr⟩ := readerStep_ok h.cells h.reader.1 h.reader.2 hst
    refine ⟨⟨hc, hr, ?_, ?_, ?_, ?_, ?_, ?_⟩, he⟩
    · rw [f.writer]; exact h.writer.mono he
    · rw [f.watchdogs]; exact Pool.forall_mono h.watchdogs fun _ => .mono he
    · rw [f.closes]; exact Pool.forall_mono h.closes fun _ => .mono he
    · rw [f.aborts]; exact Pool.forall_mono h.aborts fun _ => .mono he
    · rw [f.driver, f.aborts]; exact h.dropping
    · rw [f.driver]; exact fun hd => Nat.le_trans (hd3 hd) he.rank_le
  | writer f hst =>
    obtain ⟨⟨he, hc⟩, hw⟩ := writerStep_ok h.cells h.writer.1 h.writer.2 hd3 hst
    refine ⟨⟨hc, ?_, hw, ?_, ?_, ?_, ?_, ?_⟩, he⟩
    · rw [f.reader]; exact h.reader.mono he
    · rw [f.watchdogs]; exact Pool.forall_mono h.watchdogs fun _ => .mono he
    · rw [f.closes]; exact Pool.forall_mono h.closes fun _ => .mono he
    · rw [f.aborts]; exact Pool.forall_mono h.aborts fun _ => .mono he
    · rw [f.driver, f.aborts]; exact h.dropping
    · rw [f.driver]; exact fun hd => Nat.le_trans (hd3 hd) he.rank_le
  | control f m =>
    cases m with
    | watchdog hloc hst hcl hab =>
      obtain ⟨⟨he, hc⟩, loc', hset, hok⟩ :=
        watchdogStep_ok h.cells (h.watchdogs _ (List.mem_of_getElem? hloc)) hst
      refine ⟨⟨hc, ?_, ?_, ?_, ?_, ?_, ?_, ?_⟩, he⟩
      · rw [f.reader]; exact h.reader.mono he
      · rw [f.writer]; exact h.writer.mono he
      · rw [hset]; exact Pool.forall_set (Pool.forall_mono h.watchdogs fun _ => .mono he) hok
      · rw [hcl]; exact Pool.forall_mono h.closes fun _ => .mono he
      · rw [hab]; exact Pool.forall_mono h.aborts fun _ => .mono he
      · rw [f.driver, hab]; exact h.dropping
      · rw [f.driver]; exact fun hd => Nat.le_trans (hd3 hd) he.rank_le
    | close hloc hst hab =>
      obtain ⟨⟨he, hc⟩, ⟨loc', hset, hok⟩, hwd⟩ :=
        closeStep_ok h.cells (h.closes _ (List.mem_of_getElem? hloc)) hst
      have hwds := Pool.forall_mono h.watchdogs fun _ => WatchdogLoc.Ok.mono he
      refine ⟨⟨hc, ?_, ?_, ?_, ?_, ?_, ?_, ?_⟩, he⟩
      · rw [f.reader]; exact h.reader.mono he
      · rw [f.writer]; exact h.writer.mono he
      · rcases hwd with hwd | ⟨w, hwd, hw⟩
        · rw [hwd]; exact hwds
        · rw [hwd]; exact Pool.forall_snoc hwds hw
      · rw [hset]; exact Pool.forall_set (Pool.forall_mono h.closes fun _ => .mono he) hok
      · rw [hab]; exact Pool.forall_mono h.aborts fun _ => .mono he
      · rw [f.driver, hab]; exact h.dropping
      · rw [f.driver]; exact fun hd => Nat.le_trans (hd3 hd) he.rank_le
    | abort hloc hst hcl hwd =>
      obtain ⟨⟨he, hc⟩, loc', hset, hok⟩ :=
        abortStep_ok h.cells (h.aborts _ (List.mem_of_getElem? hloc)) hst
      refine ⟨⟨hc, ?_, ?_, ?_, ?_, ?_, ?_, ?_⟩, he⟩
      · rw [f.reader]; exact h.reader.mono he
      · rw [f.writer]; exact h.writer.mono he
      · rw [hwd]; exact Pool.forall_mono h.watchdogs fun _ => .mono he
      · rw [hcl]; exact Pool.forall_mono h.closes fun _ => .mono he
      · rw [hset]; exact Pool.forall_set (Pool.forall_mono h.aborts fun _ => .mono he) hok
      · rw [f.driver, hset]; simpa using h.dropping
      · rw [f.driver]; exact fun hd => Nat.le_trans (hd3 hd) he.rank_le
    | callClose => exact ⟨{ h with closes := Pool.forall_snoc h.closes trivial }, .refl _⟩
    | callAbort =>
      exact ⟨{ h with aborts := Pool.forall_snoc h.aborts trivial, dropping := by simp }, .refl _⟩
  | send f | receive f =>
    exact ⟨h.of_frame f.cells f.reader f.writer f.watchdogs f.closes f.aborts f.driver,
      f.cells ▸ .refl _⟩
  | callAdmit | callReceive => exact ⟨h.of_frame rfl rfl rfl rfl rfl rfl rfl, .refl _⟩
  | dropDriver =>
    exact ⟨{ h with
      aborts := Pool.forall_snoc h.aborts trivial
      dropping := by simp
      dropped := nofun }, .refl _⟩
  | dropFields hdr hover =>
    refine ⟨{ h with dropping := fun _ => h.dropping (by rw [hdr]; nofun), dropped := fun _ => ?_ },
      .refl _⟩
    -- `abort` ran to its end before the fields are dropped
    obtain ⟨a, ha⟩ := List.exists_mem_of_ne_nil _ (h.dropping (by rw [hdr]; nofun))
    exact h.closed_of_abort ha (List.all_eq_true.mp hover a ha)

theorem lifecycle_reachable (h : Reachable config s) : Lifecycle s :=
  h.invariant (lifecycle_start config) fun _ _ _ hP hst => (lifecycle_step hP hst).1

/-- The cells of a later state have evolved from those of an earlier one. -/
theorem evolves_of_path {ok : St → Label → Prop} {ls : List Label} (hs : Lifecycle s)
    (h : Lts.Path (step config) ok s ls s') : s.cells.Evolves s'.cells :=
  h.relation (R := fun a b => a.cells.Evolves b.cells) (fun _ => .refl _) (fun _ _ _ => .trans)
    (fun _ _ _ hP _ hst => lifecycle_step hP hst) hs

end FogWS
