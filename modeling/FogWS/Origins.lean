import FogWS.Outcome
/-!
# Where errors are made

A few steps make an error; every other step hands on what it has read from a state, or carries it to where it
is published. So whatever is true of the errors when they are made is true of all that is published or told.

| here | there |
| --- | --- |
| `Born` | the steps that make an error, and the error |
| `Carried` | every error on its way has a property, or comes too late to be published |
-/
namespace FogWS

/-- The errors a step makes. -/
inductive Born (s : St) : Label → DriverError → Prop
  | peer (frame : Option CloseFrame) (b : Bool) (hloc : s.reader.loc = .closeMark frame b) :
      Born s (.reader .next) (classifyClose frame b)
  | receiveFailed (error : WsError) (hloc : s.reader.loc = .errTaken error) :
      Born s (.reader .next) (receiveFailure s.cells.closing error)
  | ended (hloc : s.reader.loc = .ended) : Born s (.reader .next) (streamEnd s.cells.closing)
  | readerGone (hdone : s.reader.loc.isDone = true) :
      Born s (.writer .control) (.transport "connection reader stopped unexpectedly")
  | flushFailed (error : WsError) :
      Born s (.writer (.sinkErr error)) (.transport "WebSocket control flush failed")
  | sendFailed (error : WsError) :
      Born s (.writer (.sinkErr error)) (.transport ("WebSocket send failed: " ++ error.display))
  | closeFailed (error : WsError) : Born s (.writer (.sinkErr error)) (closeFailed error)
  | timedOut (i : Nat) (hloc : s.watchdogs[i]? = some .expired) :
      Born s (.watchdog i .next) (.transport "WebSocket close timed out")
  | abandoned (i : Nat) (hloc : s.aborts[i]? = some .publish) : Born s (.abort i) abandoned
  /-- `ensure_open` finds a close under way. -/
  | closing (i size : Nat) (hloc : s.sends[i]? = some (.start size)) (hstate : s.cells.state.value = .closing) :
      Born s (.send i .next) .localNormal

/-- The errors a send is refused with are made for it, or have `P`; a message that has changed has an error
of its own. -/
def SendLoc.Tells (P : DriverError → Prop) : SendLoc → Prop
  | .giveBack _ _ e | .refused _ e => (∃ message, e = .resourceLimit message) ∨ P e
  | .mismatched e => e = messageChanged
  | _ => True

structure Carried (P : DriverError → Prop) (s : St) : Prop where
  state : ∀ e ∈ s.cells.state.value.outcome, P e
  reader : ∀ e ∈ s.reader.loc.outcome, P e ∨ 3 ≤ s.cells.state.value.rank
  writer : ∀ e ∈ s.writer.loc.outcome, P e ∨ 3 ≤ s.cells.state.value.rank
  sends : ∀ l ∈ s.sends, l.Tells P

variable {P P' : DriverError → Prop} {config : ConnectionConfig} {s s' : St} {l : Label} {e : DriverError}

theorem carried_start (P : DriverError → Prop) (config : ConnectionConfig) : Carried P (start config) where
  state := by rintro e ⟨⟩
  reader := by rintro e ⟨⟩
  writer := by rintro e ⟨⟩
  sends := List.forall_mem_nil _

theorem SendLoc.Tells.mono {loc : SendLoc} (h : loc.Tells P) (himp : ∀ e, P e → P' e) : loc.Tells P' := by
  cases loc with
  | giveBack | refused => exact Or.imp_right (himp _) h
  | mismatched => exact h
  | _ => trivial

theorem Carried.mono (h : Carried P s) (himp : ∀ e, P e → P' e) : Carried P' s where
  state e he := himp e (h.state e he)
  reader e he := (h.reader e he).imp_left (himp e)
  writer e he := (h.writer e he).imp_left (himp e)
  sends := Pool.forall_mono h.sends fun _ hl => hl.mono himp

/-! ## Publications -/

section Publish

variable {c : Cells}

theorem publishTerminal_carried (hs : ∀ x ∈ c.state.value.outcome, P x) (he : P e ∨ 3 ≤ c.state.value.rank) :
    ∀ x ∈ (c.publishTerminal e).state.value.outcome, P x := by
  rw [Cells.publishTerminal_value]
  split
  · exact hs
  · have hlt := DriverState.rank_lt_of_not_terminal ‹_›
    rintro x ⟨⟩
    exact he.resolve_right (by omega)

theorem publishPeerClosed_carried (hs : ∀ x ∈ c.state.value.outcome, P x) (he : P e ∨ 3 ≤ c.state.value.rank) :
    ∀ x ∈ (c.publishPeerClosed e).state.value.outcome, P x := by
  rw [Cells.publishPeerClosed_value]
  split
  · rintro x ⟨⟩
    exact he.resolve_right (by omega)
  · exact hs

theorem writerFailureOutcome_carried {v : DriverState} (hs : ∀ x ∈ v.outcome, P x) (he : P e ∨ 3 ≤ v.rank) :
    P (Cells.writerFailureOutcome v e) := by
  cases v with
  | closed x | peerClosed x => exact hs x rfl
  | closing | opened => exact he.resolve_right (by simp [DriverState.rank])

end Publish

theorem conclude_outcome {x : DriverError} (h : x ∈ (ReaderLoc.conclude e).outcome) : x = e := by
  unfold ReaderLoc.conclude at h
  split at h <;> (cases h; rfl)

/-! ## The steps -/

theorem readerStep_carried {a : ReaderAct} (h : Carried P s)
    (hborn : ∀ e, Born s (.reader a) e → P e ∨ 3 ≤ s.cells.state.value.rank)
    (hst : readerStep s s.reader.loc a = some s') :
    (∀ e ∈ s'.cells.state.value.outcome, P e) ∧
      ∀ e ∈ s'.reader.loc.outcome, P e ∨ 3 ≤ s.cells.state.value.rank := by
  have hout := h.reader
  have hnone : ∀ e ∈ (none : Option DriverError), P e ∨ 3 ≤ s.cells.state.value.rank := by rintro e ⟨⟩
  have hrule := readerStep_rule hst
  generalize hloc : s.reader.loc = loc at hrule hout
  cases hrule with
  | closeMark frame b => exact ⟨h.state, by rintro e ⟨⟩; exact hborn _ (.peer frame b hloc)⟩
  | errTaken error =>
    refine ⟨h.state, fun e he => ?_⟩
    rw [conclude_outcome he]
    exact hborn _ (.receiveFailed error hloc)
  | ended =>
    refine ⟨h.state, fun e he => ?_⟩
    rw [conclude_outcome he]
    exact hborn _ (.ended hloc)
  | finish o => exact ⟨publishPeerClosed_carried h.state (hout o rfl), hout⟩
  | finishSignal | finishSubscribe | finishWait | finishTimer => exact ⟨h.state, hout⟩
  | finishExpired o | failure o => exact ⟨publishTerminal_carried h.state (hout o rfl), hnone⟩
  | _ => exact ⟨h.state, hnone⟩

theorem writerStep_carried {a : WriterAct} (h : Carried P s)
    (hborn : ∀ e, Born s (.writer a) e → P e ∨ 3 ≤ s.cells.state.value.rank)
    (hst : writerStep s s.writer.loc a = some s') :
    (∀ e ∈ s'.cells.state.value.outcome, P e) ∧
      ∀ e ∈ s'.writer.loc.outcome, P e ∨ 3 ≤ s.cells.state.value.rank := by
  have hout := h.writer
  have hnone : ∀ e ∈ (none : Option DriverError), P e ∨ 3 ≤ s.cells.state.value.rank := by rintro e ⟨⟩
  have hrule := writerStep_rule hst
  generalize s.writer.loc = loc at hrule hout
  cases hrule with
  | readerGone _ hdone => exact ⟨h.state, by rintro e ⟨⟩; exact hborn _ (.readerGone hdone)⟩
  | flushFailed error => exact ⟨h.state, by rintro e ⟨⟩; exact hborn _ (.flushFailed error)⟩
  | sendFailed _ error => exact ⟨h.state, by rintro e ⟨⟩; exact hborn _ (.sendFailed error)⟩
  | closeSendFailed error | closeFlushFailed error =>
    exact ⟨h.state, by rintro e ⟨⟩; exact hborn _ (.closeFailed error)⟩
  | closeOkPeer o ho => exact ⟨h.state, by rintro e ⟨⟩; exact .inl (h.state _ (peerCloseOutcome_mem ho))⟩
  | closePublish o => exact ⟨publishTerminal_carried h.state (hout o rfl), hnone⟩
  | fail error =>
    dsimp only [St.writerAt]
    rw [Cells.publishWriterFailure_value]
    exact ⟨by rintro e ⟨⟩; exact writerFailureOutcome_carried h.state (hout error rfl), hnone⟩
  | _ => exact ⟨h.state, hnone⟩

theorem control_carried (h : Carried P s) (hborn : ∀ e, Born s l e → P e ∨ 3 ≤ s.cells.state.value.rank)
    (m : ControlMove s l s') : ∀ e ∈ s'.cells.state.value.outcome, P e := by
  cases m with
  | watchdog hloc hst =>
    cases watchdogStep_rule hst with
    | expired =>
      dsimp only [St.watchdogAt]
      rw [Cells.publishCloseTimeout_value]
      rintro e ⟨⟩
      exact writerFailureOutcome_carried h.state (hborn _ (.timedOut _ hloc))
    | _ => exact h.state
  | close _ hst =>
    cases closeStep_rule hst with
    | transition ho =>
      simp only [Cells.publishClosing_value, ho]
      rintro e ⟨⟩
    | transitionLate ho =>
      simp only [Cells.publishClosing_value, if_neg ho]
      exact h.state
    | _ => exact h.state
  | @abort _ loc _ hloc hst =>
    cases loc with
    | publish => cases hst; exact publishTerminal_carried h.state (hborn _ (.abandoned _ hloc))
    | _ => cases hst <;> exact h.state
  | callClose | callAbort => exact h.state

theorem sendStep_tells {i : Nat} {loc : SendLoc} {a : SendAct} (h : Carried P s)
    (hborn : ∀ e, Born s (.send i a) e → P e ∨ 3 ≤ s.cells.state.value.rank)
    (hi : s.sends[i]? = some loc) (hr : loc.Ok s.cells) (hst : sendStep config s i loc a = some s') :
    ∃ loc', s'.sends = s.sends.set i loc' ∧ loc'.Tells P := by
  have hloc := h.sends _ (List.mem_of_getElem? hi)
  cases sendStep_rule hst with
  | invalid size error hv =>
    refine ⟨_, rfl, ?_⟩
    have hstate := h.state
    cases hval : s.cells.state.value with
    | opened =>
      simp only [hval, validateOutboundMessage, ensureOpen] at hv
      split at hv
      · cases hv; exact .inl ⟨_, rfl⟩
      · cases hv
    | closing =>
      rw [hval] at hv
      cases hv
      have hb := hborn _ (.closing i size hi hval)
      rw [hval] at hb
      exact .inr (hb.resolve_right (by simp [DriverState.rank]))
    | closed x | peerClosed x =>
      rw [hval] at hv hstate
      cases hv
      exact .inr (hstate _ rfl)
  | unsupported | exhausted | full => exact ⟨_, rfl, .inl ⟨_, rfl⟩⟩
  | refuse =>
    -- the channel is closed once the writer has ended
    obtain ⟨e, he⟩ := DriverState.exists_closed hr
    refine ⟨_, rfl, .inr ?_⟩
    rw [he]
    exact h.state e (by rw [he]; rfl)
  | giveBack => exact ⟨_, rfl, hloc⟩
  | mismatch => exact ⟨_, rfl, rfl⟩
  | _ => exact ⟨_, rfl, trivial⟩

/-- **What is true of every error that is made is true of every error that is carried.** -/
theorem carried_step (hr : Results s) (hle : s.cells.state.value.rank ≤ s'.cells.state.value.rank)
    (h : Carried P s) (hborn : ∀ e, Born s l e → P e ∨ 3 ≤ s.cells.state.value.rank)
    (hst : step config s l = some s') : Carried P s' := by
  have hlate : ∀ {o : Option DriverError}, (∀ e ∈ o, P e ∨ 3 ≤ s.cells.state.value.rank) →
      ∀ e ∈ o, P e ∨ 3 ≤ s'.cells.state.value.rank :=
    fun ho e he => (ho e he).imp_right fun h3 => Nat.le_trans h3 hle
  cases step_move hst with
  | reader f hst =>
    obtain ⟨hs, hloc⟩ := readerStep_carried h hborn hst
    exact ⟨hs, hlate hloc, f.writer ▸ hlate h.writer, f.sends ▸ h.sends⟩
  | writer f hst =>
    obtain ⟨hs, hloc⟩ := writerStep_carried h hborn hst
    exact ⟨hs, f.reader ▸ hlate h.reader, hlate hloc, f.sends ▸ h.sends⟩
  | control f m =>
    exact ⟨control_carried h hborn m, f.reader ▸ hlate h.reader, f.writer ▸ hlate h.writer,
      f.sends ▸ h.sends⟩
  | send f hloc hst =>
    obtain ⟨loc', hset, htells⟩ := sendStep_tells h hborn hloc (hr.sends _ (List.mem_of_getElem? hloc)) hst
    refine ⟨f.cells ▸ h.state, f.reader ▸ hlate h.reader, f.writer ▸ hlate h.writer, ?_⟩
    rw [hset]
    exact Pool.forall_set h.sends htells
  | receive f =>
    exact ⟨f.cells ▸ h.state, f.reader ▸ hlate h.reader, f.writer ▸ hlate h.writer, f.sends ▸ h.sends⟩
  | callAdmit => exact { h with sends := Pool.forall_snoc h.sends trivial }
  | callReceive | dropDriver | dropFields => exact ⟨h.state, h.reader, h.writer, h.sends⟩

end FogWS
