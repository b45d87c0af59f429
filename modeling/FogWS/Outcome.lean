import FogWS.Results
/-!
# One terminal outcome

`Genuine` follows the errors from where they are made to where they are published: each is a close or
a transport error, and none is the text that `terminal_error` keeps for an open state. `PeerKept`
says who can still replace a peer outcome: while the state is `PeerClosed(o)` the reader stands inside
`finish_peer_close` with that `o`, and every publisher but `abort` closes the state with it.
-/
namespace FogWS

/-! ## Errors made by the driver -/

/-- A close or a transport error, and not the error of `terminal_error` on an open state. -/
def DriverError.Genuine : DriverError → Prop
  | .closedOk _ | .closedError _ => True
  | .transport message => message ≠ "connection driver stopped unexpectedly"
  | _ => False

/-- The error a reader location carries towards a publication. -/
def ReaderLoc.outcome : ReaderLoc → Option DriverError
  | .finish o | .finishSignal o | .finishSubscribe o | .finishWait o _ | .finishExpired o
  | .failure o => some o
  | _ => none

/-- The error a writer location carries towards a publication. -/
def WriterLoc.outcome : WriterLoc → Option DriverError
  | .closePublish o | .fail o _ => some o
  | _ => none

/-- The error in a state. -/
def DriverState.outcome : DriverState → Option DriverError
  | .closed e | .peerClosed e => some e
  | _ => none

theorem transport_genuine {a b : String} (h : a.toList.head? ≠ some 'c') (hne : a.toList.head? ≠ none) :
    (DriverError.transport (a ++ b)).Genuine := by
  intro heq
  have hl := congrArg (fun s => s.toList.head?) heq
  simp only [String.toList_append, List.head?_append] at hl
  cases ha : a.toList.head? with
  | none => exact hne ha
  | some c =>
    rw [ha] at hl h
    exact h (hl.trans (by decide))

theorem classifyClose_genuine (f : Option CloseFrame) (b : Bool) : (classifyClose f b).Genuine := by
  unfold classifyClose
  split
  · trivial
  · split <;> trivial

theorem receiveFailure_genuine (b : Bool) (e : WsError) : (receiveFailure b e).Genuine := by
  unfold receiveFailure
  split
  · trivial
  · exact transport_genuine (by decide) (by decide)

theorem streamEnd_genuine (b : Bool) : (streamEnd b).Genuine := by
  unfold streamEnd
  split
  · trivial
  · exact fun he => absurd he (by decide)

theorem closeFailed_genuine (e : WsError) : (closeFailed e).Genuine :=
  transport_genuine (by decide) (by decide)

theorem abandoned_genuine : abandoned.Genuine := fun he => absurd he (by decide)

theorem writerFailureOutcome_genuine {v : DriverState} {e : DriverError} (hv : ∀ x ∈ v.outcome, x.Genuine)
    (he : e.Genuine) : (Cells.writerFailureOutcome v e).Genuine := by
  cases v with
  | closed x | peerClosed x => exact hv x rfl
  | closing | opened => exact he

/-- Nothing that is published, or about to be, is the error of an open state. -/
structure Genuine (s : St) : Prop where
  state : ∀ e ∈ s.cells.state.value.outcome, e.Genuine
  reader : ∀ e ∈ s.reader.loc.outcome, e.Genuine
  writer : ∀ e ∈ s.writer.loc.outcome, e.Genuine

variable {config : ConnectionConfig} {s s' : St} {l : Label}

theorem publishTerminal_genuine {c : Cells} {t : DriverError} (hs : ∀ e ∈ c.state.value.outcome, e.Genuine)
    (ht : t.Genuine) : ∀ e ∈ (c.publishTerminal t).state.value.outcome, e.Genuine := by
  rw [Cells.publishTerminal_value]
  split
  · exact hs
  · rintro e ⟨⟩; exact ht

theorem publishPeerClosed_genuine {c : Cells} {o : DriverError}
    (hs : ∀ e ∈ c.state.value.outcome, e.Genuine) (ho : o.Genuine) :
    ∀ e ∈ (c.publishPeerClosed o).state.value.outcome, e.Genuine := by
  rw [Cells.publishPeerClosed_value]
  split
  · rintro e ⟨⟩; exact ho
  · exact hs

theorem conclude_genuine {t : DriverError} (ht : t.Genuine) :
    ∀ e ∈ (ReaderLoc.conclude t).outcome, e.Genuine := by
  unfold ReaderLoc.conclude
  split <;> (rintro e ⟨⟩; exact ht)

/-- A location that carries no error carries no other than a terminal one. -/
theorem carries_nothing : ∀ e ∈ (none : Option DriverError), e.Genuine := fun e he =>
  absurd he (Option.not_mem_none e)

theorem readerStep_genuine {loc : ReaderLoc} {a : ReaderAct}
    (hs : ∀ e ∈ s.cells.state.value.outcome, e.Genuine) (hloc : ∀ e ∈ loc.outcome, e.Genuine)
    (h : readerStep s loc a = some s') :
    (∀ e ∈ s'.cells.state.value.outcome, e.Genuine) ∧ ∀ e ∈ s'.reader.loc.outcome, e.Genuine := by
  cases readerStep_rule h with
  | closeMark => exact ⟨hs, by rintro e ⟨⟩; exact classifyClose_genuine _ _⟩
  | errTaken => exact ⟨hs, conclude_genuine (receiveFailure_genuine _ _)⟩
  | ended => exact ⟨hs, conclude_genuine (streamEnd_genuine _)⟩
  | finish => exact ⟨publishPeerClosed_genuine hs (hloc _ rfl), hloc⟩
  | finishSignal | finishSubscribe | finishWait | finishTimer => exact ⟨hs, hloc⟩
  | finishExpired | failure => exact ⟨publishTerminal_genuine hs (hloc _ rfl), carries_nothing⟩
  -- the other steps publish nothing, and reach locations that carry nothing
  | _ => exact ⟨hs, carries_nothing⟩

theorem peerCloseOutcome_mem {v : DriverState} {e : DriverError} (h : peerCloseOutcome v = some e) :
    e ∈ v.outcome := by
  cases v with
  | peerClosed => exact h
  | closed | closing | opened => cases h

theorem writerStep_genuine {loc : WriterLoc} {a : WriterAct}
    (hs : ∀ e ∈ s.cells.state.value.outcome, e.Genuine) (hloc : ∀ e ∈ loc.outcome, e.Genuine)
    (h : writerStep s loc a = some s') :
    (∀ e ∈ s'.cells.state.value.outcome, e.Genuine) ∧ ∀ e ∈ s'.writer.loc.outcome, e.Genuine := by
  cases writerStep_rule h with
  | readerGone | flushFailed =>
    exact ⟨hs, by rintro e ⟨⟩ he; exact absurd he (by decide)⟩
  | sendFailed => exact ⟨hs, by rintro e ⟨⟩; exact transport_genuine (by decide) (by decide)⟩
  | closeSendFailed | closeFlushFailed => exact ⟨hs, by rintro e ⟨⟩; exact closeFailed_genuine _⟩
  | closeOkPeer outcome ho =>
    -- the outcome is read from the state
    exact ⟨hs, by rintro e ⟨⟩; exact hs _ (peerCloseOutcome_mem ho)⟩
  | closePublish => exact ⟨publishTerminal_genuine hs (hloc _ rfl), carries_nothing⟩
  | fail =>
    refine ⟨?_, carries_nothing⟩
    dsimp only [St.writerAt]
    rw [Cells.publishWriterFailure_value]
    rintro e ⟨⟩
    exact writerFailureOutcome_genuine hs (hloc _ rfl)
  | _ => exact ⟨hs, carries_nothing⟩

theorem genuine_start (config : ConnectionConfig) : Genuine (start config) :=
  ⟨carries_nothing, carries_nothing, carries_nothing⟩

theorem closeTimeout_genuine {c : Cells} (hs : ∀ e ∈ c.state.value.outcome, e.Genuine) :
    ∀ e ∈ c.publishCloseTimeout.state.value.outcome, e.Genuine := by
  rw [Cells.publishCloseTimeout_value]
  rintro e ⟨⟩
  exact writerFailureOutcome_genuine hs fun he => absurd he (by decide)

/-- A step of `close`, `abort` or a watchdog publishes no other error than its own. -/
theorem Genuine.of_control (h : Genuine s) (f : ControlFrame s s')
    (hs : ∀ e ∈ s'.cells.state.value.outcome, e.Genuine) : Genuine s' :=
  ⟨hs, f.reader ▸ h.reader, f.writer ▸ h.writer⟩

theorem genuine_step (h : Genuine s) (hst : step config s l = some s') : Genuine s' := by
  cases step_move hst with
  | reader f hst =>
    obtain ⟨hs, hr⟩ := readerStep_genuine h.state h.reader hst
    exact ⟨hs, hr, f.writer ▸ h.writer⟩
  | writer f hst =>
    obtain ⟨hs, hw⟩ := writerStep_genuine h.state h.writer hst
    exact ⟨hs, f.reader ▸ h.reader, hw⟩
  | control f m =>
    refine h.of_control f ?_
    cases m with
    | watchdog _ hst =>
      cases watchdogStep_rule hst with
      | expired => exact closeTimeout_genuine h.state
      | _ => exact h.state
    | close _ hst =>
      cases closeStep_rule hst with
      | transition ho =>
        simp only [Cells.publishClosing_value, ho]
        exact carries_nothing
      | transitionLate ho =>
        simp only [Cells.publishClosing_value, if_neg ho]
        exact h.state
      | _ => exact h.state
    | @abort _ loc _ _ hst =>
      cases loc with
      | publish => cases hst; exact publishTerminal_genuine h.state abandoned_genuine
      | _ => cases hst <;> exact h.state
    | callClose | callAbort => exact h.state
  | send f | receive f => exact ⟨f.cells ▸ h.state, f.reader ▸ h.reader, f.writer ▸ h.writer⟩
  | callAdmit | callReceive | dropDriver | dropFields => exact ⟨h.state, h.reader, h.writer⟩

theorem genuine_reachable (h : Reachable config s) : Genuine s :=
  h.invariant (genuine_start config) fun _ _ _ => genuine_step

/-! ## The peer outcome -/

/-- The outcome of `finish_peer_close`, once it has published it. -/
def ReaderLoc.peerOutcome : ReaderLoc → Option DriverError
  | .finishSignal o | .finishSubscribe o | .finishWait o _ | .finishExpired o => some o
  | _ => none

/-- While the state is `PeerClosed(o)`, the reader is inside `finish_peer_close` with `o`. -/
def PeerKept (s : St) : Prop :=
  ∀ o, s.cells.state.value = .peerClosed o → s.reader.loc.peerOutcome = some o

theorem terminal_ne_peerClosed {v : DriverState} {o : DriverError} (h : 3 ≤ v.rank) :
    v ≠ .peerClosed o := by
  rintro rfl
  exact absurd h (Nat.lt_irrefl 2)

theorem readerStep_peerKept {loc : ReaderLoc} {a : ReaderAct} (hc : s.cells.Coherent)
    (hk : ∀ o, s.cells.state.value = .peerClosed o → loc.peerOutcome = some o)
    (h : readerStep s loc a = some s') : PeerKept s' := by
  cases readerStep_rule h with
  | finish =>
    intro o ho
    dsimp only [St.readerAt] at ho
    rw [Cells.publishPeerClosed_value] at ho
    split at ho
    · cases ho; rfl
    · exact nomatch hk o ho
  | finishSignal | finishSubscribe | finishWait | finishTimer => exact hk
  | finishOver _ _ hw =>
    exact fun o ho => absurd ho
      (terminal_ne_peerClosed (DriverState.isTerminal_iff.mp (Wait.done_of_exit hw)))
  | finishExpired | failure =>
    exact fun o ho => absurd ho (terminal_ne_peerClosed (Cells.publishTerminal_rank _ _))
  | kill _ hab => exact fun o ho => absurd ho (terminal_ne_peerClosed (hc.aborted (.inl hab)))
  | _ => exact fun o ho => nomatch hk o ho

/-- The state is left alone, becomes `Closing`, or is closed with the peer outcome if there is one. -/
def DriverState.RespectsPeer (a b : DriverState) : Prop :=
  b = a ∨ (a = .opened ∧ b = .closing) ∨ ∃ e, b = .closed e ∧ ∀ o, a = .peerClosed o → e = o

namespace DriverState.RespectsPeer

variable {a b : DriverState} {o : DriverError}

/-- It does not make up a peer outcome. -/
theorem peerClosed (h : a.RespectsPeer b) (hb : b = .peerClosed o) : a = .peerClosed o := by
  subst hb
  rcases h with h | ⟨-, h⟩ | ⟨e, h, -⟩
  · exact h.symm
  · cases h
  · cases h

theorem kept (h : a.RespectsPeer b) (ha : a = .peerClosed o) : b = .peerClosed o ∨ b = .closed o := by
  rcases h with rfl | ⟨h, -⟩ | ⟨e, rfl, h⟩
  · exact .inl ha
  · rw [ha] at h; cases h
  · exact .inr (congrArg _ (h o ha))

theorem publishWriterFailure (c : Cells) (e : DriverError) :
    c.state.value.RespectsPeer (c.publishWriterFailure e).state.value := by
  rw [Cells.publishWriterFailure_value]
  refine .inr (.inr ⟨_, rfl, fun o ho => ?_⟩)
  rw [ho]; rfl

theorem publishTerminal {c : Cells} {t : DriverError}
    (h : c.state.value = .peerClosed t ∨ 3 ≤ c.state.value.rank) :
    c.state.value.RespectsPeer (c.publishTerminal t).state.value := by
  rw [Cells.publishTerminal_value]
  split
  · exact .inl rfl
  · rename_i hn
    refine .inr (.inr ⟨_, rfl, fun o ho => ?_⟩)
    rcases h with h | h
    · rw [ho] at h; cases h; rfl
    · exact absurd (DriverState.isTerminal_iff.mpr h) hn

end DriverState.RespectsPeer

theorem writerStep_respectsPeer {loc : WriterLoc} {a : WriterAct}
    (hloc : loc.Ok s.cells s.writer.seen) (h : writerStep s loc a = some s') :
    s.cells.state.value.RespectsPeer s'.cells.state.value := by
  cases writerStep_rule h with
  | closePublish => exact .publishTerminal hloc
  | fail => exact .publishWriterFailure _ _
  | _ => exact .inl rfl

theorem watchdogStep_respectsPeer {i : Nat} {loc : WatchdogLoc} {a : WatchdogAct}
    (h : watchdogStep s i loc a = some s') :
    s.cells.state.value.RespectsPeer s'.cells.state.value := by
  cases watchdogStep_rule h with
  | expired => exact .publishWriterFailure _ _
  | _ => exact .inl rfl

/-- `close` opens the way to `Closing`, and does nothing else to the state. -/
theorem closeStep_state {i : Nat} {loc : CloseLoc} {a : CallAct} (h : closeStep s i loc a = some s') :
    s'.cells.state.value = s.cells.state.value ∨
      s.cells.state.value = .opened ∧ s'.cells.state.value = .closing := by
  cases closeStep_rule h with
  | transition ho => exact .inr ⟨ho, by simp [Cells.publishClosing_value, ho]⟩
  | transitionLate ho => exact .inl (by simp [Cells.publishClosing_value, ho])
  | _ => exact .inl rfl

theorem closeStep_respectsPeer {i : Nat} {loc : CloseLoc} {a : CallAct}
    (h : closeStep s i loc a = some s') : s.cells.state.value.RespectsPeer s'.cells.state.value :=
  (closeStep_state h).imp id .inl

/-- The next step of this label is the publication of an `abort`. -/
def St.abortPublishes (s : St) : Label → Bool
  | .abort i => s.aborts[i]? = some .publish
  | _ => false

/-- Every step but a step of the reader or the publication of an `abort`. -/
theorem step_respectsPeer (hl : Lifecycle s) (hr : ∀ a, l ≠ .reader a) (hab : s.abortPublishes l = false)
    (hst : step config s l = some s') : s.cells.state.value.RespectsPeer s'.cells.state.value := by
  cases step_move hst with
  | reader => exact absurd rfl (hr _)
  | writer _ hst => exact writerStep_respectsPeer hl.writer.2 hst
  | control _ m =>
    cases m with
    | watchdog _ hst => exact watchdogStep_respectsPeer hst
    | close _ hst => exact closeStep_respectsPeer hst
    | @abort _ loc _ hloc hst =>
      cases loc with
      | publish => simp [St.abortPublishes, hloc] at hab
      | _ => cases hst <;> exact .inl rfl
    | callClose | callAbort => exact .inl rfl
  | send f | receive f => exact .inl (by rw [f.cells])
  | callAdmit | callReceive | dropDriver | dropFields => exact .inl rfl

/-- The reader closes a peer-closed state only with that outcome, when the close timeout expires. -/
theorem readerStep_respectsPeer {loc : ReaderLoc} {a : ReaderAct} {o : DriverError}
    (hs : s.cells.state.value = .peerClosed o) (hk : loc.peerOutcome = some o)
    (h : readerStep s loc a = some s') :
    s'.cells.state.value = .peerClosed o ∨ s'.cells.state.value = .closed o := by
  cases readerStep_rule h with
  | finish | failure => cases hk
  | finishExpired =>
    cases hk
    exact (DriverState.RespectsPeer.publishTerminal (.inl hs)).kept hs
  | _ => exact .inl hs

/-- A closed state is not peer-closed, whoever closed it. -/
theorem abortPublishes_closed (hab : s.abortPublishes l = true) (hst : step config s l = some s') :
    3 ≤ s'.cells.state.value.rank := by
  unfold St.abortPublishes at hab
  split at hab
  · obtain ⟨loc, hloc, hst⟩ := Option.bind_eq_some_iff.mp hst
    obtain rfl : loc = .publish := by simpa [hloc] using hab
    cases hst
    exact Cells.publishTerminal_rank _ _
  · cases hab

theorem peerKept_step (hl : Lifecycle s) (h : PeerKept s) (hst : step config s l = some s') :
    PeerKept s' := by
  by_cases hr : ∃ a, l = .reader a
  · obtain ⟨a, rfl⟩ := hr
    exact readerStep_peerKept hl.cells h hst
  · have hr' : ∀ a, l ≠ .reader a := fun a ha => hr ⟨a, ha⟩
    intro o ho
    cases hab : s.abortPublishes l with
    | true => exact absurd ho (terminal_ne_peerClosed (abortPublishes_closed hab hst))
    | false =>
      rw [step_reader_eq hr' hst]
      exact h o ((step_respectsPeer hl hr' hab hst).peerClosed ho)

theorem peerKept_reachable (h : Reachable config s) : PeerKept s :=
  (h.invariant (P := fun s => Lifecycle s ∧ PeerKept s) ⟨lifecycle_start config, nofun⟩
    fun _ _ _ hP hst => ⟨(lifecycle_step hP.1 hst).1, peerKept_step hP.1 hP.2 hst⟩).2

/-- **Only `abort` replaces a peer outcome**, step by step: anything else keeps it or closes with it. -/
theorem peer_outcome_step {o : DriverError} (hl : Lifecycle s) (hk : PeerKept s)
    (hs : s.cells.state.value = .peerClosed o ∨ s.cells.state.value = .closed o)
    (hab : s.abortPublishes l = false) (hst : step config s l = some s') :
    s'.cells.state.value = .peerClosed o ∨ s'.cells.state.value = .closed o := by
  rcases hs with hs | hs
  · by_cases hr : ∃ a, l = .reader a
    · obtain ⟨a, rfl⟩ := hr
      exact readerStep_respectsPeer hs (hk o hs) hst
    · exact (step_respectsPeer hl (fun a ha => hr ⟨a, ha⟩) hab hst).kept hs
  · exact .inr ((lifecycle_step hl hst).2.closed hs)

/-! ## Every call agrees -/

/-- What every call and every later state has to say about the terminal outcome. -/
structure OneOutcome (config : ConnectionConfig) (s : St) : Prop where
  /-- The state has been `Closed` with one error at most. -/
  unique : ∀ e e', s.cells.state.Held (.closed e) → s.cells.state.Held (.closed e') → e = e'
  /-- Once closed, the state never changes again. -/
  final : ∀ e ls s', s.cells.state.value = .closed e → Lts.run (step config) s ls = some s' →
    s'.cells.state.value = .closed e
  close : ∀ r, .returned r ∈ s.closes → ∃ e, s.cells.state.value = .closed e ∧ r = closeResult e
  receive : ∀ x, .returned (.error x) ∈ s.receives → (∀ m, x ≠ .concurrency m) →
    s.cells.state.value = .closed x
  send : ∀ x, .returned (.error x) ∈ s.sends → s.cells.state.value = .closed x
  refusedClosed : ∀ e x, .refused (.validation (.closed e)) x ∈ s.sends →
    s.cells.state.value = .closed x
  refusedChannel : ∀ x, .refused .channelClosed x ∈ s.sends → s.cells.state.value = .closed x
  refusedPeer : ∀ o x, .refused (.validation (.peerClosed o)) x ∈ s.sends →
    x = o ∧ s.cells.state.Held (.peerClosed o)
  /-- Without the publication of an `abort`, a peer outcome is the terminal one. -/
  peer : ∀ o, s.cells.state.value = .peerClosed o → ∀ ls s',
    Lts.Path (step config) (fun s l => s.abortPublishes l = false) s ls s' →
      s'.cells.state.value = .peerClosed o ∨ s'.cells.state.value = .closed o

theorem one_terminal_outcome (h : Reachable config s) : OneOutcome config s := by
  have hl := lifecycle_reachable h
  have hr := results_reachable h
  have hcl : ∀ e, s.cells.state.Held (.closed e) → s.cells.state.value = .closed e := fun e he =>
    hl.cells.eq_of_held_closed he
  constructor
  · intro e e' he he'
    have := (hcl e he).symm.trans (hcl e' he')
    cases this; rfl
  · intro e ls s' he hrun
    exact (evolves_of_path hl (Lts.path_of_run hrun)).closed he
  · intro r hret; exact hl.closes _ hret
  · intro x hret hx
    rcases hr.receives _ hret with rfl | hc
    · exact absurd rfl (hx _)
    · exact hc
  · intro x hret; exact hr.sends _ hret
  · intro e x hret
    obtain ⟨rfl, hc⟩ := hr.sends _ hret
    exact hc
  · intro x hret; exact hr.sends _ hret
  · intro o x hret; exact hr.sends _ hret
  · intro o ho ls s' hp
    exact (hp.invariant (P := fun s => Lifecycle s ∧ PeerKept s ∧
        (s.cells.state.value = .peerClosed o ∨ s.cells.state.value = .closed o))
      (fun _ _ _ ⟨hl, hk, hs⟩ hab hst => ⟨(lifecycle_step hl hst).1, peerKept_step hl hk hst,
        peer_outcome_step hl hk hs hab hst⟩)
      ⟨hl, peerKept_reachable h, .inl ho⟩).2.2

/-- The peer closes without a code, and both tasks go through their half of the handshake. -/
def peerCloseRun : List Label :=
  [.reader .next, .reader .next, .reader (.item (some (.ok (.close none)))), .reader .next, .reader .next,
    .reader .next, .callAdmit 0, .send 0 .next, .reader .next, .writer .next, .writer .next, .writer .next,
    .writer .sinkOk, .writer .next, .writer .next]

theorem one_terminal_outcome_peerClose :
    OneOutcome .tiny (Lts.after (step .tiny) (start .tiny) peerCloseRun) ∧
      (Lts.after (step .tiny) (start .tiny) peerCloseRun).cells.state.value =
        .closed (.closedOk ⟨none, false, ""⟩) :=
  ⟨one_terminal_outcome (Lts.reachable_after rfl), rfl⟩

/-! ## The cells are coherent -/

/-- How the state, the signal and the closing flag fit together, and what follows for
`terminal_error`. -/
structure CellsCoherent (config : ConnectionConfig) (s : St) : Prop where
  /-- Whatever happens next, state and signal only move forward. -/
  forward : ∀ ls s', Lts.run (step config) s ls = some s' →
    s.cells.state.value.Forward s'.cells.state.value ∧
      s.cells.shutdown.value.Forward s'.cells.shutdown.value
  localClose : s.cells.shutdown.value = .localClose → s.cells.state.value ≠ .opened
  peerClose : s.cells.shutdown.value = .peerClose →
    (∃ o, s.cells.state.value = .peerClosed o) ∨ ∃ e, s.cells.state.value = .closed e
  abort : s.cells.shutdown.value = .abort → ∃ e, s.cells.state.value = .closed e
  closing : s.cells.state.value = .closing ∨ (∃ o, s.cells.state.value = .peerClosed o) →
    s.cells.closing = true
  reader : s.reader.loc.isDone = true → ∃ e, s.cells.state.value = .closed e
  writer : s.writer.loc.isDone = true → ∃ e, s.cells.state.value = .closed e
  /-- `terminal_error` is about to be called: inbound channel ended, response dropped, outbound
  channel closed. -/
  terminalError : .terminal ∈ s.receives ∨ .terminal ∈ s.sends ∨ (∃ n, .refuse n ∈ s.sends) →
    terminalError s.cells.state.value ≠ .transport "connection driver stopped unexpectedly"

theorem DriverState.rank_cases {v : DriverState} (h : 2 ≤ v.rank) :
    (∃ o, v = .peerClosed o) ∨ ∃ e, v = .closed e := by
  cases v with
  | peerClosed o => exact .inl ⟨o, rfl⟩
  | closed e => exact .inr ⟨e, rfl⟩
  | _ => simp [DriverState.rank] at h

theorem terminalError_genuine {v : DriverState} (hv : ∀ e ∈ v.outcome, e.Genuine) (h3 : 3 ≤ v.rank) :
    (terminalError v).Genuine := by
  obtain ⟨e, rfl⟩ := DriverState.exists_closed h3
  exact hv e rfl

theorem cells_coherent (h : Reachable config s) : CellsCoherent config s := by
  have hl := lifecycle_reachable h
  have hr := results_reachable h
  have hle := hl.cells.signal_le
  constructor
  · intro ls s' hrun
    have he := evolves_of_path hl (Lts.path_of_run hrun)
    exact ⟨he.forward, he.signal⟩
  · intro hs ho
    rw [hs, ho] at hle
    exact absurd hle (by decide)
  · intro hs; rw [hs] at hle; exact DriverState.rank_cases hle
  · intro hs; rw [hs] at hle; exact DriverState.exists_closed hle
  · rintro (hs | ⟨o, hs⟩) <;>
      exact hl.cells.closing (by simp [hs, DriverState.rank]) (by simp [hs, DriverState.rank])
  · intro hd; exact DriverState.exists_closed (hl.closed_of_reader hd)
  · intro hd; exact DriverState.exists_closed (hl.closed_of_writer hd)
  · intro ht he
    have hrank : 3 ≤ s.cells.state.value.rank := by
      rcases ht with ht | ht | ⟨n, ht⟩
      · exact hr.receives _ ht
      · exact hr.sends _ ht
      · exact hr.sends _ ht
    have hg := terminalError_genuine (genuine_reachable h).state hrank
    rw [he] at hg
    exact hg rfl

/-- The stream ends without a close frame while a `receive` waits. -/
def streamEndRun : List Label :=
  [.callReceive, .receive 0 .next, .receive 0 .next, .reader .next, .reader .next,
    .reader (.item (some (.error .reset))), .reader .next, .reader .next, .reader .next, .reader .next,
    .reader .next, .receive 0 .next]

theorem cells_coherent_streamEnd :
    CellsCoherent .tiny (Lts.after (step .tiny) (start .tiny) streamEndRun) ∧
      .terminal ∈ (Lts.after (step .tiny) (start .tiny) streamEndRun).receives :=
  ⟨cells_coherent (Lts.reachable_after rfl), List.mem_cons_self⟩

end FogWS
