import FogWS.Cells
/-!
# How the cells evolve

`Cells.Evolves` is the order that every publication respects whoever makes it and whenever: the state
and the signal move forward only, a closed state stays, flags are never taken back and watch channels
only grow. `Cells.Coherent` is the invariant the cells keep when each publication is made at its place
in the code; its heart is that **the signal never runs ahead of the state**.

The invariants of the tasks (`Lifecycle.lean`) are all monotone in this order, so a step of one task
keeps the invariants of all the others.
-/
namespace FogWS

namespace DriverState

theorem Forward.trans {a b c : DriverState} (h : a.Forward b) (h' : b.Forward c) : a.Forward c := by
  rcases h with rfl | h
  · exact h'
  · rcases h' with rfl | h'
    · exact .inr h
    · exact .inr (by omega)

/-- A later state is not of a lower rank. -/
theorem Forward.rank_le {a b : DriverState} (h : a.Forward b) : a.rank ≤ b.rank := by
  rcases h with rfl | h <;> omega

theorem rank_le (a : DriverState) : a.rank ≤ 3 := by cases a <;> simp [rank]

/-- Nothing is later than a closed state. -/
theorem Forward.eq_of_rank {a b : DriverState} (h : a.Forward b) (ha : b.rank ≤ a.rank) : b = a := by
  rcases h with rfl | h
  · rfl
  · omega

theorem Forward.closed {b : DriverState} {e : DriverError} (h : (closed e).Forward b) :
    b = closed e :=
  h.eq_of_rank b.rank_le

/-- `is_terminal` says that the state is closed. -/
theorem isTerminal_iff {a : DriverState} : a.isTerminal = true ↔ 3 ≤ a.rank := by
  cases a <;> simp [isTerminal, rank]

theorem rank_lt_of_not_terminal {a : DriverState} (h : ¬a.isTerminal = true) : a.rank < 3 := by
  rw [isTerminal_iff] at h; omega

/-- A state of the highest rank has an outcome. -/
theorem exists_closed {a : DriverState} (h : 3 ≤ a.rank) : ∃ e, a = closed e := by
  cases a <;> simp_all [rank]

end DriverState

namespace ShutdownSignal

theorem Forward.trans {a b c : ShutdownSignal} (h : a.Forward b) (h' : b.Forward c) :
    a.Forward c := by
  rcases h with rfl | h
  · exact h'
  · rcases h' with rfl | h'
    · exact .inr h
    · exact .inr (by omega)

theorem Forward.rank_le {a b : ShutdownSignal} (h : a.Forward b) : a.rank ≤ b.rank := by
  rcases h with rfl | h <;> omega

theorem rank_eq_zero {a : ShutdownSignal} : a.rank = 0 ↔ a = .running := by cases a <;> simp [rank]

/-- `Abort` is the last signal. -/
theorem rank_eq_three {a : ShutdownSignal} : a.rank = 3 ↔ a = .abort := by cases a <;> simp [rank]

theorem rank_le (a : ShutdownSignal) : a.rank ≤ 3 := by cases a <;> simp [rank]

end ShutdownSignal

namespace Cells

/-- `c'` is `c` after any number of publications. -/
structure Evolves (c c' : Cells) : Prop where
  state : c.state.Ext c'.state
  forward : c.state.value.Forward c'.state.value
  shutdown : c.shutdown.Ext c'.shutdown
  signal : c.shutdown.value.Forward c'.shutdown.value
  tasks : c.tasksRemaining.Ext c'.tasksRemaining
  closing : c.closing = true → c'.closing = true
  readerAbort : c.readerAbort = true → c'.readerAbort = true
  writerAbort : c.writerAbort = true → c'.writerAbort = true

/-- What holds of the cells in every reachable state. -/
structure Coherent (c : Cells) : Prop where
  /-- The signal never runs ahead of the state. -/
  signal_le : c.shutdown.value.rank ≤ c.state.value.rank
  /-- A connection on its way down has its closing flag set. -/
  closing : 0 < c.state.value.rank → c.state.value.rank < 3 → c.closing = true
  states : c.state.Rising DriverState.rank
  signals : c.shutdown.Rising ShutdownSignal.rank
  /-- A task is only aborted once the state is closed. -/
  aborted : c.readerAbort = true ∨ c.writerAbort = true → 3 ≤ c.state.value.rank

namespace Evolves

/-- No publication at all. -/
theorem refl (c : Cells) : c.Evolves c :=
  ⟨.refl _, .inl rfl, .refl _, .inl rfl, .refl _, id, id, id⟩

/-- One publication after another. -/
theorem trans {a b c : Cells} (h : a.Evolves b) (h' : b.Evolves c) : a.Evolves c :=
  ⟨h.state.trans h'.state, h.forward.trans h'.forward, h.shutdown.trans h'.shutdown,
    h.signal.trans h'.signal, h.tasks.trans h'.tasks, fun x => h'.closing (h.closing x),
    fun x => h'.readerAbort (h.readerAbort x), fun x => h'.writerAbort (h.writerAbort x)⟩

theorem rank_le {c c' : Cells} (h : c.Evolves c') : c.state.value.rank ≤ c'.state.value.rank :=
  h.forward.rank_le

theorem signal_le {c c' : Cells} (h : c.Evolves c') :
    c.shutdown.value.rank ≤ c'.shutdown.value.rank :=
  h.signal.rank_le

/-- A closed state is final. -/
theorem closed {c c' : Cells} (h : c.Evolves c') {e : DriverError} (hc : c.state.value = .closed e) :
    c'.state.value = .closed e := by
  have := h.forward
  rw [hc] at this
  exact this.closed

end Evolves

variable {c : Cells}

/-! ## The publications -/

/-- A modification of the state that only moves it forward. -/
def RaisesState (f : DriverState → Option DriverState) : Prop := ∀ a b, f a = some b → a.rank < b.rank

/-- A modification of the signal that only moves it forward. -/
def RaisesSignal (f : ShutdownSignal → Option ShutdownSignal) : Prop :=
  ∀ a b, f a = some b → a.rank < b.rank

/-- The state goes up, and the rest stays. -/
theorem evolves_state (c : Cells) {f : DriverState → Option DriverState} (hf : RaisesState f) :
    c.Evolves { c with state := c.state.sendIfModified f } := by
  refine ⟨.sendIfModified _ _, ?_, .refl _, .inl rfl, .refl _, id, id, id⟩
  rw [Watch.value_sendIfModified]
  cases h : f c.state.value with
  | none => exact .inl rfl
  | some b => exact .inr (hf _ _ h)

/-- The signal goes up, and the rest stays. -/
theorem evolves_shutdown (c : Cells) {f : ShutdownSignal → Option ShutdownSignal}
    (hf : RaisesSignal f) : c.Evolves { c with shutdown := c.shutdown.sendIfModified f } := by
  refine ⟨.refl _, .inl rfl, .sendIfModified _ _, ?_, .refl _, id, id, id⟩
  rw [Watch.value_sendIfModified]
  cases h : f c.shutdown.value with
  | none => exact .inl rfl
  | some b => exact .inr (hf _ _ h)

/-! Each publication as the modification it makes, which is a forward one. -/

/-- `publish_terminal` closes what is not closed (driver.rs:739). -/
theorem raises_terminal (e : DriverError) :
    RaisesState fun s => if s.isTerminal then none else some (.closed e) := fun a b h => by
  dsimp only at h
  split at h
  · cases h
  · cases h; exact DriverState.rank_lt_of_not_terminal ‹_›

/-- `publish_writer_failure` closes with the outcome of the peer if there is one (driver.rs:702). -/
theorem raises_writerFailure (e : DriverError) :
    RaisesState fun
      | .closed _ => none
      | .peerClosed outcome => some (.closed outcome)
      | .closing | .opened => some (.closed e) := fun a b h => by
  cases a <;> cases h <;> simp [DriverState.rank]

/-- `publish_peer_closed` is for a state without an outcome (driver.rs:750). -/
theorem raises_peerClosed (o : DriverError) :
    RaisesState fun
      | .closed _ | .peerClosed _ => none
      | .closing | .opened => some (.peerClosed o) := fun a b h => by
  cases a <;> cases h <;> simp [DriverState.rank]

/-- `begin_close` commits an open state (driver.rs:359). -/
theorem raises_closing :
    RaisesState fun
      | .opened => some .closing
      | _ => none := fun a b h => by
  cases a <;> cases h; simp [DriverState.rank]

/-- `signal_abort` is heard at any time (driver.rs:778). -/
theorem raises_abort :
    RaisesSignal fun s => if s = .abort then none else some .abort := fun a b h => by
  cases a <;> cases h <;> simp [ShutdownSignal.rank]

/-- `signal_local_close` is the first signal, or none (driver.rs:789). -/
theorem raises_localClose :
    RaisesSignal fun s => if s = .running then some .localClose else none := fun a b h => by
  cases a <;> cases h; simp [ShutdownSignal.rank]

/-- `signal_peer_close` overrides a local close only (driver.rs:800). -/
theorem raises_peerClose :
    RaisesSignal fun
      | .running | .localClose => some .peerClose
      | .peerClose | .abort => none := fun a b h => by
  cases a <;> cases h <;> simp [ShutdownSignal.rank]

theorem evolves_publishTerminal (c : Cells) (e : DriverError) : c.Evolves (c.publishTerminal e) :=
  evolves_state c (raises_terminal e)

theorem evolves_publishWriterFailure (c : Cells) (e : DriverError) :
    c.Evolves (c.publishWriterFailure e) :=
  evolves_state c (raises_writerFailure e)

theorem evolves_publishPeerClosed (c : Cells) (o : DriverError) : c.Evolves (c.publishPeerClosed o) :=
  evolves_state c (raises_peerClosed o)

theorem evolves_publishCloseTimeout (c : Cells) : c.Evolves c.publishCloseTimeout :=
  evolves_publishWriterFailure c _

theorem evolves_publishClosing (c : Cells) : c.Evolves c.publishClosing :=
  evolves_state c raises_closing

theorem evolves_signalAbort (c : Cells) : c.Evolves c.signalAbort :=
  evolves_shutdown c raises_abort

theorem evolves_signalLocalClose (c : Cells) : c.Evolves c.signalLocalClose :=
  evolves_shutdown c raises_localClose

theorem evolves_signalPeerClose (c : Cells) : c.Evolves c.signalPeerClose :=
  evolves_shutdown c raises_peerClose

/-- A task is counted. -/
theorem evolves_guardNew (c : Cells) : c.Evolves c.guardNew :=
  ⟨.refl _, .inl rfl, .refl _, .inl rfl, .sendModify _ _, id, id, id⟩

/-- A task has ended. -/
theorem evolves_guardDrop (c : Cells) : c.Evolves c.guardDrop :=
  ⟨.refl _, .inl rfl, .refl _, .inl rfl, .sendModify _ _, id, id, id⟩

theorem evolves_closing (c : Cells) : c.Evolves { c with closing := true } :=
  ⟨.refl _, .inl rfl, .refl _, .inl rfl, .refl _, fun _ => rfl, id, id⟩

theorem evolves_started (c : Cells) : c.Evolves { c with closeTimeoutStarted := true } :=
  ⟨.refl _, .inl rfl, .refl _, .inl rfl, .refl _, id, id, id⟩

theorem evolves_readerAbort (c : Cells) : c.Evolves { c with readerAbort := true } :=
  ⟨.refl _, .inl rfl, .refl _, .inl rfl, .refl _, id, fun _ => rfl, id⟩

theorem evolves_writerAbort (c : Cells) : c.Evolves { c with writerAbort := true } :=
  ⟨.refl _, .inl rfl, .refl _, .inl rfl, .refl _, id, id, fun _ => rfl⟩

/-! ## What a publication leaves behind -/

theorem publishTerminal_value (c : Cells) (e : DriverError) :
    (c.publishTerminal e).state.value =
      if c.state.value.isTerminal then c.state.value else .closed e := by
  simp only [publishTerminal, Watch.value_sendIfModified]
  split <;> rfl

/-- Whoever publishes a terminal outcome leaves a closed state. -/
theorem publishTerminal_rank (c : Cells) (e : DriverError) :
    3 ≤ (c.publishTerminal e).state.value.rank := by
  rw [publishTerminal_value]
  split
  · exact DriverState.isTerminal_iff.mp ‹_›
  · exact Nat.le_refl _

/-- A failure always closes, but not always with its own error. -/
theorem publishWriterFailure_value (c : Cells) (e : DriverError) :
    (c.publishWriterFailure e).state.value = .closed (writerFailureOutcome c.state.value e) := by
  simp only [publishWriterFailure, Watch.value_sendIfModified]
  cases c.state.value <;> rfl

theorem publishPeerClosed_value (c : Cells) (o : DriverError) :
    (c.publishPeerClosed o).state.value =
      if c.state.value.rank < 2 then .peerClosed o else c.state.value := by
  simp only [publishPeerClosed, Watch.value_sendIfModified]
  cases c.state.value <;> rfl

/-- Whoever publishes the outcome of the peer leaves a state with an outcome. -/
theorem publishPeerClosed_rank (c : Cells) (o : DriverError) :
    2 ≤ (c.publishPeerClosed o).state.value.rank := by
  rw [publishPeerClosed_value]
  split
  · exact Nat.le_refl _
  · omega

theorem publishCloseTimeout_value (c : Cells) :
    c.publishCloseTimeout.state.value =
      .closed (writerFailureOutcome c.state.value (.transport "WebSocket close timed out")) :=
  publishWriterFailure_value c _

theorem publishClosing_value (c : Cells) :
    c.publishClosing.state.value = if c.state.value = .opened then .closing else c.state.value := by
  simp only [publishClosing, Watch.value_sendIfModified]
  cases c.state.value <;> rfl

/-- After `begin_close` the state is not open. -/
theorem publishClosing_rank (c : Cells) : 1 ≤ c.publishClosing.state.value.rank := by
  rw [publishClosing_value]
  cases c.state.value <;> simp [DriverState.rank]

theorem signalAbort_value (c : Cells) : c.signalAbort.shutdown.value = .abort := by
  simp only [signalAbort, Watch.value_sendIfModified]
  cases c.shutdown.value <;> rfl

theorem signalLocalClose_value (c : Cells) :
    c.signalLocalClose.shutdown.value =
      if c.shutdown.value = .running then .localClose else c.shutdown.value := by
  simp only [signalLocalClose, Watch.value_sendIfModified]
  cases c.shutdown.value <;> rfl

theorem signalPeerClose_value (c : Cells) :
    c.signalPeerClose.shutdown.value =
      if c.shutdown.value.rank < 2 then .peerClose else c.shutdown.value := by
  simp only [signalPeerClose, Watch.value_sendIfModified]
  cases c.shutdown.value <;> rfl

/-! ## Publications made at their place keep the cells coherent -/

namespace Coherent

/-- A publication of the state: the flag has to be set unless it closes. -/
theorem ofState (h : c.Coherent) {f : DriverState → Option DriverState} (hf : RaisesState f)
    (hcl : 0 < (c.state.sendIfModified f).value.rank →
      (c.state.sendIfModified f).value.rank < 3 → c.closing = true) :
    Coherent { c with state := c.state.sendIfModified f } := by
  have hle := (evolves_state c hf).rank_le
  exact ⟨Nat.le_trans h.signal_le hle, hcl, h.states.sendIfModified hf, h.signals,
    fun ha => Nat.le_trans (h.aborted ha) hle⟩

theorem publishTerminal (h : c.Coherent) (e : DriverError) : (c.publishTerminal e).Coherent :=
  h.ofState (raises_terminal e) fun _ h3 =>
    absurd (publishTerminal_rank c e) (Nat.not_le.mpr h3)

theorem publishWriterFailure (h : c.Coherent) (e : DriverError) :
    (c.publishWriterFailure e).Coherent :=
  h.ofState (raises_writerFailure e) fun _ h3 => by
    have hv := publishWriterFailure_value c e
    simp only [Cells.publishWriterFailure] at hv
    rw [hv] at h3
    exact absurd h3 (Nat.lt_irrefl 3)

theorem publishCloseTimeout (h : c.Coherent) : c.publishCloseTimeout.Coherent :=
  h.publishWriterFailure _

/-- The reader sets the flag before it publishes the outcome (driver.rs:478). -/
theorem publishPeerClosed (h : c.Coherent) (o : DriverError) (hcl : c.closing = true) :
    (c.publishPeerClosed o).Coherent :=
  h.ofState (raises_peerClosed o) fun _ _ => hcl

/-- `begin_close` swaps the flag before it commits (driver.rs:355). -/
theorem publishClosing (h : c.Coherent) (hcl : c.closing = true) : c.publishClosing.Coherent :=
  h.ofState raises_closing fun _ _ => hcl

/-- A publication of the signal: the state has to be there already. -/
theorem ofShutdown (h : c.Coherent) {f : ShutdownSignal → Option ShutdownSignal}
    (hf : RaisesSignal f) (hle : (c.shutdown.sendIfModified f).value.rank ≤ c.state.value.rank) :
    Coherent { c with shutdown := c.shutdown.sendIfModified f } :=
  ⟨hle, h.closing, h.states, h.signals.sendIfModified hf, h.aborted⟩

/-- An abort is signalled on a closed state. -/
theorem signalAbort (h : c.Coherent) (hst : 3 ≤ c.state.value.rank) : c.signalAbort.Coherent :=
  h.ofShutdown raises_abort (Nat.le_trans (ShutdownSignal.rank_le _) hst)

/-- A local close is signalled on a state that has left `Open`. -/
theorem signalLocalClose (h : c.Coherent) (hst : 1 ≤ c.state.value.rank) :
    c.signalLocalClose.Coherent :=
  h.ofShutdown raises_localClose (by
    have hv := signalLocalClose_value c
    simp only [Cells.signalLocalClose] at hv
    rw [hv]
    split
    · exact hst
    · exact h.signal_le)

/-- A close of the peer is signalled once its outcome is published. -/
theorem signalPeerClose (h : c.Coherent) (hst : 2 ≤ c.state.value.rank) :
    c.signalPeerClose.Coherent :=
  h.ofShutdown raises_peerClose (by
    have hv := signalPeerClose_value c
    simp only [Cells.signalPeerClose] at hv
    rw [hv]
    split
    · exact hst
    · exact h.signal_le)

theorem guardNew (h : c.Coherent) : c.guardNew.Coherent :=
  ⟨h.signal_le, h.closing, h.states, h.signals, h.aborted⟩

theorem guardDrop (h : c.Coherent) : c.guardDrop.Coherent :=
  ⟨h.signal_le, h.closing, h.states, h.signals, h.aborted⟩

theorem setClosing (h : c.Coherent) : Coherent { c with closing := true } :=
  ⟨h.signal_le, fun _ _ => rfl, h.states, h.signals, h.aborted⟩

theorem setStarted (h : c.Coherent) : Coherent { c with closeTimeoutStarted := true } :=
  ⟨h.signal_le, h.closing, h.states, h.signals, h.aborted⟩

/-- The reader is aborted on a closed state. -/
theorem setReaderAbort (h : c.Coherent) (hst : 3 ≤ c.state.value.rank) :
    Coherent { c with readerAbort := true } :=
  ⟨h.signal_le, h.closing, h.states, h.signals, fun _ => hst⟩

/-- The writer is aborted on a closed state. -/
theorem setWriterAbort (h : c.Coherent) (hst : 3 ≤ c.state.value.rank) :
    Coherent { c with writerAbort := true } :=
  ⟨h.signal_le, h.closing, h.states, h.signals, fun _ => hst⟩

/-- An unseen version means that the signal has left `Running`. -/
theorem signal_pos (h : c.Coherent) {seen : Nat} (hlt : seen < c.shutdown.version) :
    1 ≤ c.shutdown.value.rank :=
  Nat.lt_of_le_of_lt (Nat.zero_le _) (Nat.lt_of_lt_of_le hlt h.signals.version_le)

/-- A state that was ever closed is the current one. -/
theorem eq_of_held_closed (h : c.Coherent) {e : DriverError} (he : c.state.Held (.closed e)) :
    c.state.value = .closed e :=
  (h.states.eq_of_held he (DriverState.rank_le _)).symm

end Coherent

end Cells

end FogWS
