import FogWS.Guards
import FogWS.Outcome
/-!
# Who brings the connection down

`begin_close` has three early returns that arm nothing and rely on someone else. `Responsible` names
that someone in every situation that is not yet over:

| situation | responsible |
| --- | --- |
| closing flag set, state `Open` | the first close, an `abort`, or the reader with the peer's frame |
| `Closing` | the owner on its way to the watchdog, or the watchdog |
| `PeerClosed` | the reader in `finish_peer_close` (`PeerKept`) |
| `Closed`, reader alive | an abort of the reader, done or about to be, or the `Abort` signal |
| `Closed`, writer alive | an abort of the writer, done or about to be, or the writer itself |
-/
namespace FogWS

/-! ## Obligations of a location -/

def ReaderLoc.publishesPeer : ReaderLoc → Bool
  | .finish _ => true
  | _ => false

/-- The reader has left its loop. -/
def ReaderLoc.leaving : ReaderLoc → Bool
  | .unstarted | .top | .select | .changed | .queue _ | .acquire _ | .send _ _ | .control => false
  | _ => true

/-- The reader will abort the writer. -/
def ReaderLoc.dooms : ReaderLoc → Bool
  | .failureSignal | .failureAbort | .finishAbort => true
  | _ => false

/-- The writer has published its failure and will signal it. -/
def WriterLoc.signals : WriterLoc → Bool
  | .failSignal _ _ => true
  | _ => false

/-- The writer has nothing more to wait for. -/
def WriterLoc.ending : WriterLoc → Bool
  | .failSignal _ _ | .failAnswer _ _ | .leave _ | .returned | .finished => true
  | _ => false

def AbortLoc.publishes : AbortLoc → Bool
  | .publish => true
  | _ => false

def AbortLoc.doomsReader : AbortLoc → Bool
  | .signal | .abortReader => true
  | _ => false

def AbortLoc.doomsWriter : AbortLoc → Bool
  | .signal | .abortReader | .abortWriter => true
  | _ => false

/-- The watchdog has not yet closed the state. -/
def WatchdogLoc.guarding : WatchdogLoc → Bool
  | .sleep _ | .expired => true
  | _ => false

def WatchdogLoc.doomsReader : WatchdogLoc → Bool
  | .abortReader => true
  | _ => false

def WatchdogLoc.doomsWriter : WatchdogLoc → Bool
  | .abortReader | .abortWriter => true
  | _ => false

def CloseLoc.publishes : CloseLoc → Bool
  | .transition => true
  | _ => false

/-- Somebody has ended the reader, or is about to. -/
def ReaderDoomed (s : St) : Prop :=
  s.cells.readerAbort = true ∨ s.cells.shutdown.value = .abort ∨ s.reader.loc.leaving = true ∨
    s.writer.loc.signals = true ∨ (∃ a ∈ s.aborts, a.doomsReader = true) ∨
    ∃ w ∈ s.watchdogs, w.doomsReader = true

/-- Somebody has ended the writer, or is about to. -/
def WriterDoomed (s : St) : Prop :=
  s.cells.writerAbort = true ∨ s.writer.loc.ending = true ∨ s.reader.loc.dooms = true ∨
    (∃ a ∈ s.aborts, a.doomsWriter = true) ∨ ∃ w ∈ s.watchdogs, w.doomsWriter = true

structure Responsible (s : St) : Prop where
  opened : s.cells.closing = true → s.cells.state.value = .opened →
    (∃ l ∈ s.closes, l.publishes = true) ∨ (∃ a ∈ s.aborts, a.publishes = true) ∨
      s.reader.loc.publishesPeer = true
  closing : s.cells.state.value = .closing →
    (∃ l ∈ s.closes, l.spawns = true) ∨ ∃ w ∈ s.watchdogs, w.guarding = true
  reader : 3 ≤ s.cells.state.value.rank → ReaderDoomed s
  writer : 3 ≤ s.cells.state.value.rank → WriterDoomed s

theorem responsible_start (config : ConnectionConfig) : Responsible (start config) :=
  ⟨nofun, nofun, fun h => absurd h (Nat.not_succ_le_zero 2), fun h => absurd h (Nat.not_succ_le_zero 2)⟩

/-! ## The steps of each process -/

section Steps

variable {s s' : St}

/-- What a step of the reader does to its obligations. -/
structure ReaderDuty (s s' : St) (loc : ReaderLoc) : Prop where
  opened : s'.cells.closing = true → s'.cells.state.value = .opened →
    s'.reader.loc.publishesPeer = true ∨
      s.cells.closing = true ∧ s.cells.state.value = .opened ∧ loc.publishesPeer = false
  closing : s'.cells.state.value = .closing → s.cells.state.value = .closing
  leaving : loc.leaving = true → s'.reader.loc.leaving = true
  dooms : loc.dooms = true → s'.reader.loc.dooms = true ∨ s'.cells.writerAbort = true
  closed : s'.cells.state.value = s.cells.state.value ∨ s'.cells.state.value.rank < 3 ∨
    s'.reader.loc.leaving = true ∧ s'.reader.loc.dooms = true

theorem ReaderLoc.leaving_conclude (t : DriverError) : (ReaderLoc.conclude t).leaving = true := by
  unfold ReaderLoc.conclude
  split <;> rfl

/-- A step that leaves the cells alone and was no obligation to publish. -/
theorem ReaderDuty.quiet {loc : ReaderLoc} (hc : s'.cells = s.cells) (hp : loc.publishesPeer = false)
    (hl : loc.leaving = true → s'.reader.loc.leaving = true) (hd : loc.dooms = false) :
    ReaderDuty s s' loc :=
  ⟨fun h1 h2 => .inr ⟨hc ▸ h1, hc ▸ h2, hp⟩, fun h => hc ▸ h, hl,
    fun h => absurd h (by rw [hd]; decide), .inl (by rw [hc])⟩

/-- An aborted reader had nothing to publish. -/
theorem ReaderLoc.idle_of_awaits {loc : ReaderLoc} (h : loc.awaits = true) :
    loc.publishesPeer = false ∧ loc.dooms = false := by
  cases loc with
  | unstarted | select | acquire | send | finishWait => exact ⟨rfl, rfl⟩
  | _ => cases h

theorem readerStep_duty {loc : ReaderLoc} {a : ReaderAct} (h : readerStep s loc a = some s') :
    ReaderDuty s s' loc := by
  cases readerStep_rule h with
  | closeMark => exact ⟨fun _ _ => .inl rfl, id, fun _ => rfl, nofun, .inl rfl⟩
  | errTaken | ended => exact .quiet rfl rfl (fun _ => ReaderLoc.leaving_conclude _) rfl
  | finish =>
    have hv := Cells.publishPeerClosed_rank s.cells ‹_›
    refine ⟨fun _ ho => ?_, fun hc => ?_, fun _ => rfl, nofun, ?_⟩
    · rw [show _ = DriverState.opened from ho] at hv; exact absurd hv (by decide)
    · rw [show _ = DriverState.closing from hc] at hv; exact absurd hv (by decide)
    · dsimp only [St.readerAt]
      rw [Cells.publishPeerClosed_value]
      split
      · exact .inr (.inl (Nat.le_refl _))
      · exact .inl rfl
  | finishExpired | failure =>
    have hv := Cells.publishTerminal_rank s.cells ‹_›
    refine ⟨fun _ ho => ?_, fun hc => ?_, fun _ => rfl, nofun, .inr (.inr ⟨rfl, rfl⟩)⟩
    · rw [show _ = DriverState.opened from ho] at hv; exact absurd hv (by decide)
    · rw [show _ = DriverState.closing from hc] at hv; exact absurd hv (by decide)
  | finishAbort | failureAbort =>
    exact ⟨fun h1 h2 => .inr ⟨h1, h2, rfl⟩, id, fun _ => rfl, fun _ => .inr rfl, .inl rfl⟩
  | failureSignal =>
    exact ⟨fun h1 h2 => .inr ⟨h1, h2, rfl⟩, id, fun _ => rfl, fun _ => .inl rfl, .inl rfl⟩
  | finishSignal | returned =>
    exact ⟨fun h1 h2 => .inr ⟨h1, h2, rfl⟩, id, fun _ => rfl, nofun, .inl rfl⟩
  | kill haw =>
    have hidle := ReaderLoc.idle_of_awaits haw
    exact .quiet rfl hidle.1 (fun _ => rfl) hidle.2
  | closeTaken | finishSubscribe | finishOver | finishWait | finishTimer | leave =>
    exact .quiet rfl rfl (fun _ => rfl) rfl
  | _ => exact .quiet rfl rfl nofun rfl

/-- What a step of the writer does to its obligations. -/
structure WriterDuty (s s' : St) (loc : WriterLoc) : Prop where
  ending : loc.ending = true → s'.writer.loc.ending = true
  signals : loc.signals = true → s'.cells.shutdown.value = .abort
  closed : s'.cells.state.value = s.cells.state.value ∨
    3 ≤ s'.cells.state.value.rank ∧ s'.writer.loc.ending = true ∧
      (s'.writer.loc.signals = true ∨ ∃ o, s.cells.state.value = .peerClosed o)

theorem WriterDuty.quiet {loc : WriterLoc} (hc : s'.cells = s.cells)
    (he : loc.ending = true → s'.writer.loc.ending = true) (hs : loc.signals = false) :
    WriterDuty s s' loc :=
  ⟨he, fun h => absurd h (by rw [hs]; decide), .inl (by rw [hc])⟩

theorem WriterLoc.idle_of_awaits {loc : WriterLoc} (h : loc.awaits = true) : loc.signals = false := by
  cases loc with
  | failSignal => cases h
  | _ => rfl

theorem writerStep_duty {loc : WriterLoc} {a : WriterAct} (hloc : loc.Ok s.cells s.writer.seen)
    (h : writerStep s loc a = some s') : WriterDuty s s' loc := by
  cases writerStep_rule h with
  | closePublish =>
    -- either the state is closed already, or the reader has left
    refine ⟨fun _ => rfl, nofun, ?_⟩
    dsimp only [St.writerAt]
    rcases hloc with hp | h3
    · exact .inr ⟨Cells.publishTerminal_rank _ _, rfl, .inr ⟨_, hp⟩⟩
    · rw [Cells.publishTerminal_value, if_pos (DriverState.isTerminal_iff.mpr h3)]
      exact .inl rfl
  | fail =>
    refine ⟨fun _ => rfl, nofun, .inr ⟨?_, rfl, .inl rfl⟩⟩
    dsimp only [St.writerAt]
    rw [Cells.publishWriterFailure_value]
    exact Nat.le_refl _
  | failSignalCommand | failSignal =>
    exact ⟨fun _ => rfl, fun _ => Cells.signalAbort_value _, .inl rfl⟩
  | returned => exact ⟨fun _ => rfl, nofun, .inl rfl⟩
  | failAnswer | leave => exact .quiet rfl (fun _ => rfl) rfl
  | kill haw => exact .quiet rfl (fun _ => rfl) (WriterLoc.idle_of_awaits haw)
  | _ => exact .quiet rfl nofun rfl

structure WatchdogDuty (s s' : St) (i : Nat) (loc loc' : WatchdogLoc) : Prop where
  watchdogs : s'.watchdogs = s.watchdogs.set i loc'
  guarding : loc.guarding = true → loc'.guarding = true ∨ 3 ≤ s'.cells.state.value.rank
  doomsReader : loc.doomsReader = true → s'.cells.readerAbort = true
  doomsWriter : loc.doomsWriter = true → loc'.doomsWriter = true ∨ s'.cells.writerAbort = true
  closed : s'.cells.state.value = s.cells.state.value ∨
    3 ≤ s'.cells.state.value.rank ∧ loc'.doomsReader = true ∧ loc'.doomsWriter = true

theorem watchdogStep_duty {i : Nat} {loc : WatchdogLoc} {a : WatchdogAct}
    (h : watchdogStep s i loc a = some s') : ∃ loc', WatchdogDuty s s' i loc loc' := by
  cases watchdogStep_rule h with
  | sleepOver _ hw =>
    exact ⟨_, rfl, fun _ => .inr (DriverState.isTerminal_iff.mp (Wait.done_of_exit hw)), nofun, nofun,
      .inl rfl⟩
  | sleep | timer => exact ⟨_, rfl, fun _ => .inl rfl, nofun, nofun, .inl rfl⟩
  | expired =>
    have h3 : 3 ≤ s.cells.publishCloseTimeout.state.value.rank := by
      rw [Cells.publishCloseTimeout_value]; exact Nat.le_refl _
    exact ⟨_, rfl, fun _ => .inr h3, nofun, nofun, .inr ⟨h3, rfl, rfl⟩⟩
  | abortReader => exact ⟨_, rfl, nofun, fun _ => rfl, fun _ => .inl rfl, .inl rfl⟩
  | abortWriter => exact ⟨_, rfl, nofun, nofun, fun _ => .inr rfl, .inl rfl⟩
  | returned => exact ⟨_, rfl, nofun, nofun, nofun, .inl rfl⟩

structure AbortDuty (s s' : St) (i : Nat) (loc loc' : AbortLoc) : Prop where
  aborts : s'.aborts = s.aborts.set i loc'
  opened : s'.cells.closing = true → s'.cells.state.value = .opened →
    loc'.publishes = true ∨
      s.cells.closing = true ∧ s.cells.state.value = .opened ∧ loc.publishes = false
  doomsReader : loc.doomsReader = true → loc'.doomsReader = true ∨ s'.cells.readerAbort = true
  doomsWriter : loc.doomsWriter = true → loc'.doomsWriter = true ∨ s'.cells.writerAbort = true
  closed : s'.cells.state.value = s.cells.state.value ∨
    3 ≤ s'.cells.state.value.rank ∧ loc'.doomsReader = true ∧ loc'.doomsWriter = true

theorem abortStep_duty {i : Nat} {loc : AbortLoc} (h : abortStep s i loc = some s') :
    ∃ loc', AbortDuty s s' i loc loc' := by
  cases loc with
  | store => cases h; exact ⟨_, rfl, fun _ _ => .inl rfl, nofun, nofun, .inl rfl⟩
  | publish =>
    cases h
    have h3 := Cells.publishTerminal_rank s.cells abandoned
    refine ⟨_, rfl, fun _ ho => ?_, nofun, nofun, .inr ⟨h3, rfl, rfl⟩⟩
    rw [show _ = DriverState.opened from ho] at h3
    exact absurd h3 (by decide)
  | signal =>
    cases h
    exact ⟨_, rfl, fun h1 h2 => .inr ⟨h1, h2, rfl⟩, fun _ => .inl rfl, fun _ => .inl rfl, .inl rfl⟩
  | abortReader =>
    cases h
    exact ⟨_, rfl, fun h1 h2 => .inr ⟨h1, h2, rfl⟩, fun _ => .inr rfl, fun _ => .inl rfl, .inl rfl⟩
  | abortWriter =>
    cases h
    exact ⟨_, rfl, fun h1 h2 => .inr ⟨h1, h2, rfl⟩, nofun, fun _ => .inr rfl, .inl rfl⟩
  | done => cases h

structure CloseDuty (s s' : St) (i : Nat) (loc loc' : CloseLoc) : Prop where
  closes : s'.closes = s.closes.set i loc'
  opened : s'.cells.closing = true → s'.cells.state.value = .opened →
    loc'.publishes = true ∨
      s.cells.closing = true ∧ s.cells.state.value = .opened ∧ loc.publishes = false
  closing : s'.cells.state.value = .closing →
    loc'.spawns = true ∨ (∃ w ∈ s'.watchdogs, w.guarding = true) ∨
      s.cells.state.value = .closing ∧ loc.spawns = false
  watchdogs : ∃ ws, s'.watchdogs = s.watchdogs ++ ws
  closed : s'.cells.state.value = s.cells.state.value ∨ s'.cells.state.value.rank < 3

/-- A step that leaves the cells alone and was no obligation. -/
theorem CloseDuty.quiet {i : Nat} {loc loc' : CloseLoc} (hset : s'.closes = s.closes.set i loc')
    (hst : s'.cells.state = s.cells.state) (hcl : s'.cells.closing = s.cells.closing)
    (hw : s'.watchdogs = s.watchdogs) (hp : loc.publishes = false) (hs : loc.spawns = false) :
    CloseDuty s s' i loc loc' :=
  ⟨hset, fun h1 h2 => .inr ⟨hcl ▸ h1, hst ▸ h2, hp⟩, fun h => .inr (.inr ⟨hst ▸ h, hs⟩),
    ⟨[], by rw [hw, List.append_nil]⟩, .inl (by rw [hst])⟩

theorem closeStep_duty {i : Nat} {loc : CloseLoc} {a : CallAct}
    (hstarted : loc.unarmed = 1 → s.cells.closeTimeoutStarted = false)
    (h : closeStep s i loc a = some s') : ∃ loc', CloseDuty s s' i loc loc' := by
  have hsame : s.watchdogs = s.watchdogs ++ [] := (List.append_nil _).symm
  have hno : s.cells.publishClosing.state.value ≠ .opened := fun ho => by
    have hr := Cells.publishClosing_rank s.cells
    rw [ho] at hr; exact absurd hr (by decide)
  cases closeStep_rule h with
  | swapAgain hcl => exact ⟨_, .quiet rfl rfl hcl.symm rfl rfl rfl⟩
  | swap => exact ⟨_, rfl, fun _ _ => .inl rfl, fun h => .inr (.inr ⟨h, rfl⟩), ⟨_, hsame⟩, .inl rfl⟩
  | transition ho =>
    have hv := Cells.publishClosing_value s.cells
    rw [if_pos ho] at hv
    exact ⟨_, rfl, fun _ ho' => absurd ho' hno, fun _ => .inl rfl, ⟨_, hsame⟩,
      .inr (by dsimp only; rw [hv]; decide)⟩
  | transitionLate ho =>
    have hv := Cells.publishClosing_value s.cells
    rw [if_neg ho] at hv
    exact ⟨_, rfl, fun _ ho' => absurd ho' hno, fun hc => .inr (.inr ⟨hv ▸ hc, rfl⟩), ⟨_, hsame⟩, .inl hv⟩
  | signal | arm =>
    exact ⟨_, rfl, fun h1 h2 => .inr ⟨h1, h2, rfl⟩, fun _ => .inl rfl, ⟨_, hsame⟩, .inl rfl⟩
  | armAgain ha =>
    -- nobody else has armed the timeout
    rw [hstarted rfl] at ha; cases ha
  | spawn =>
    exact ⟨_, rfl, fun h1 h2 => .inr ⟨h1, h2, rfl⟩,
      fun _ => .inr (.inl ⟨_, List.mem_append_right _ List.mem_cons_self, rfl⟩), ⟨_, rfl⟩, .inl rfl⟩
  | _ => exact ⟨_, .quiet rfl rfl rfl rfl rfl rfl⟩

end Steps

/-! ## Every step keeps somebody responsible -/

variable {config : ConnectionConfig} {s s' : St} {l : Label}

theorem ReaderLoc.leaving_of_peerOutcome {l : ReaderLoc} {o : DriverError} (h : l.peerOutcome = some o) :
    l.leaving = true := by
  cases l <;> first | rfl | cases h

theorem Cells.Evolves.abort {c c' : Cells} (h : c.Evolves c') (ha : c.shutdown.value = .abort) :
    c'.shutdown.value = .abort := by
  have hle := h.signal_le
  rw [ha] at hle
  exact ShutdownSignal.rank_eq_three.mp (Nat.le_antisymm (ShutdownSignal.rank_le _) hle)

/-- The flags and the signal of a doomed reader stay; the rest is up to the process that moves. -/
theorem ReaderDoomed.mono (h : ReaderDoomed s) (he : s.cells.Evolves s'.cells)
    (hr : s.reader.loc.leaving = true → s'.reader.loc.leaving = true)
    (hw : s.writer.loc.signals = true → ReaderDoomed s')
    (ha : (∃ a ∈ s.aborts, a.doomsReader = true) → ReaderDoomed s')
    (hd : (∃ w ∈ s.watchdogs, w.doomsReader = true) → ReaderDoomed s') : ReaderDoomed s' := by
  rcases h with h | h | h | h | h | h
  · exact .inl (he.readerAbort h)
  · exact .inr (.inl (he.abort h))
  · exact .inr (.inr (.inl (hr h)))
  · exact hw h
  · exact ha h
  · exact hd h

theorem WriterDoomed.mono (h : WriterDoomed s) (he : s.cells.Evolves s'.cells)
    (hw : s.writer.loc.ending = true → s'.writer.loc.ending = true)
    (hr : s.reader.loc.dooms = true → WriterDoomed s')
    (ha : (∃ a ∈ s.aborts, a.doomsWriter = true) → WriterDoomed s')
    (hd : (∃ w ∈ s.watchdogs, w.doomsWriter = true) → WriterDoomed s') : WriterDoomed s' := by
  rcases h with h | h | h | h | h
  · exact .inl (he.writerAbort h)
  · exact .inr (.inl (hw h))
  · exact hr h
  · exact ha h
  · exact hd h

/-- A step that moves none of the obliged processes and leaves the cells alone. -/
theorem Responsible.of_frame (h : Responsible s) (hc : s'.cells = s.cells) (hr : s'.reader = s.reader)
    (hw : s'.writer = s.writer) (hwd : s'.watchdogs = s.watchdogs) (hcl : s'.closes = s.closes)
    (hab : s'.aborts = s.aborts) : Responsible s' := by
  obtain ⟨h1, h2, h3, h4⟩ := h
  unfold ReaderDoomed at h3
  unfold WriterDoomed at h4
  constructor
  · rw [hc, hcl, hab, hr]; exact h1
  · rw [hc, hcl, hwd]; exact h2
  · rw [hc]; unfold ReaderDoomed; rw [hc, hr, hw, hab, hwd]; exact h3
  · rw [hc]; unfold WriterDoomed; rw [hc, hr, hw, hab, hwd]; exact h4

theorem responsible_reader {a : ReaderAct} (hl : Lifecycle s) (h : Responsible s)
    (hst : step config s (.reader a) = some s') : Responsible s' := by
  have he := (lifecycle_step hl hst).2
  have f := readerStep_frame hst
  have d := readerStep_duty hst
  constructor
  · intro hcl ho
    rcases d.opened hcl ho with hp | ⟨hcl, ho, hno⟩
    · exact .inr (.inr hp)
    · rw [f.closes, f.aborts]
      rcases h.opened hcl ho with hx | hx | hx
      · exact .inl hx
      · exact .inr (.inl hx)
      · rw [hno] at hx; cases hx
  · intro hc
    rw [f.closes, f.watchdogs]
    exact h.closing (d.closing hc)
  · intro h3
    rcases d.closed with heq | hlt | ⟨hlv, -⟩
    · refine (h.reader (heq ▸ h3)).mono he d.leaving ?_ ?_ ?_
      · intro hx; exact .inr (.inr (.inr (.inl (f.writer ▸ hx))))
      · intro hx; exact .inr (.inr (.inr (.inr (.inl (f.aborts ▸ hx)))))
      · intro hx; exact .inr (.inr (.inr (.inr (.inr (f.watchdogs ▸ hx)))))
    · omega
    · exact .inr (.inr (.inl hlv))
  · intro h3
    rcases d.closed with heq | hlt | ⟨-, hdm⟩
    · refine (h.writer (heq ▸ h3)).mono he (fun hx => f.writer ▸ hx) ?_ ?_ ?_
      · intro hx
        rcases d.dooms hx with hx | hx
        · exact .inr (.inr (.inl hx))
        · exact .inl hx
      · intro hx; exact .inr (.inr (.inr (.inl (f.aborts ▸ hx))))
      · intro hx; exact .inr (.inr (.inr (.inr (f.watchdogs ▸ hx))))
    · omega
    · exact .inr (.inr (.inl hdm))

theorem responsible_writer {a : WriterAct} (hl : Lifecycle s) (hk : PeerKept s) (h : Responsible s)
    (hst : step config s (.writer a) = some s') : Responsible s' := by
  have he := (lifecycle_step hl hst).2
  have f := writerStep_frame hst
  have d := writerStep_duty hl.writer.2 hst
  constructor
  · intro hcl ho
    rcases d.closed with heq | ⟨h3, -⟩
    · rw [f.closes, f.aborts, f.reader]
      exact h.opened (f.closing ▸ hcl) (heq ▸ ho)
    · rw [ho] at h3; exact absurd h3 (by decide)
  · intro hc
    rcases d.closed with heq | ⟨h3, -⟩
    · rw [f.closes, f.watchdogs]; exact h.closing (heq ▸ hc)
    · rw [hc] at h3; exact absurd h3 (by decide)
  · intro h3
    rcases d.closed with heq | ⟨-, -, hsig | ⟨o, ho⟩⟩
    · refine (h.reader (heq ▸ h3)).mono he (fun hx => f.reader ▸ hx) ?_ ?_ ?_
      · intro hx; exact .inr (.inl (d.signals hx))
      · intro hx; exact .inr (.inr (.inr (.inr (.inl (f.aborts ▸ hx)))))
      · intro hx; exact .inr (.inr (.inr (.inr (.inr (f.watchdogs ▸ hx)))))
    · exact .inr (.inr (.inr (.inl hsig)))
    · -- the peer's outcome: the reader is in `finish_peer_close`
      refine .inr (.inr (.inl ?_))
      rw [f.reader]
      exact ReaderLoc.leaving_of_peerOutcome (hk o ho)
  · intro h3
    rcases d.closed with heq | ⟨-, hend, -⟩
    · refine (h.writer (heq ▸ h3)).mono he d.ending ?_ ?_ ?_
      · intro hx; exact .inr (.inr (.inl (f.reader ▸ hx)))
      · intro hx; exact .inr (.inr (.inr (.inl (f.aborts ▸ hx))))
      · intro hx; exact .inr (.inr (.inr (.inr (f.watchdogs ▸ hx))))
    · exact .inr (.inl hend)

theorem responsible_watchdog {i : Nat} {a : WatchdogAct} (hl : Lifecycle s) (h : Responsible s)
    (hst : step config s (.watchdog i a) = some s') : Responsible s' := by
  have he := (lifecycle_step hl hst).2
  obtain ⟨loc, hloc, hst⟩ := Option.bind_eq_some_iff.mp hst
  obtain ⟨f, hcl, hab⟩ := watchdogStep_frame hst
  have hflag := (watchdogStep_flags hst).1
  obtain ⟨loc', d⟩ := watchdogStep_duty hst
  constructor
  · intro hc ho
    rcases d.closed with heq | ⟨h3, -⟩
    · rw [hcl, hab, f.reader]
      exact h.opened (hflag ▸ hc) (heq ▸ ho)
    · rw [ho] at h3; exact absurd h3 (by decide)
  · intro hc
    rcases d.closed with heq | ⟨h3, -⟩
    · rw [hcl, d.watchdogs]
      rcases h.closing (heq ▸ hc) with hx | hx
      · exact .inl hx
      · refine .inr (Pool.exists_set hx hloc fun hg => (d.guarding hg).resolve_right fun h3 => ?_)
        rw [hc] at h3; exact absurd h3 (by decide)
    · rw [hc] at h3; exact absurd h3 (by decide)
  · intro h3
    rcases d.closed with heq | ⟨-, hdr, -⟩
    · refine (h.reader (heq ▸ h3)).mono he (fun hx => f.reader ▸ hx) ?_ ?_ ?_
      · intro hx; exact .inr (.inr (.inr (.inl (f.writer ▸ hx))))
      · intro hx; exact .inr (.inr (.inr (.inr (.inl (hab ▸ hx)))))
      · intro hx
        rcases Pool.exists_set_or hx hloc with hx | hx
        · exact .inl (d.doomsReader hx)
        · exact .inr (.inr (.inr (.inr (.inr (d.watchdogs ▸ hx)))))
    · exact .inr (.inr (.inr (.inr (.inr ⟨loc', d.watchdogs ▸ Pool.mem_set_self hloc, hdr⟩))))
  · intro h3
    rcases d.closed with heq | ⟨-, -, hdw⟩
    · refine (h.writer (heq ▸ h3)).mono he (fun hx => f.writer ▸ hx) ?_ ?_ ?_
      · intro hx; exact .inr (.inr (.inl (f.reader ▸ hx)))
      · intro hx; exact .inr (.inr (.inr (.inl (hab ▸ hx))))
      · intro hx
        by_cases hw : s'.cells.writerAbort = true
        · exact .inl hw
        · refine .inr (.inr (.inr (.inr ?_)))
          rw [d.watchdogs]
          exact Pool.exists_set hx hloc fun hx => (d.doomsWriter hx).resolve_right hw
    · exact .inr (.inr (.inr (.inr ⟨loc', d.watchdogs ▸ Pool.mem_set_self hloc, hdw⟩)))

theorem responsible_abort {i : Nat} (hl : Lifecycle s) (h : Responsible s)
    (hst : step config s (.abort i) = some s') : Responsible s' := by
  have he := (lifecycle_step hl hst).2
  obtain ⟨loc, hloc, hst⟩ := Option.bind_eq_some_iff.mp hst
  obtain ⟨f, hcl, hwd⟩ := abortStep_frame hst
  obtain ⟨loc', d⟩ := abortStep_duty hst
  constructor
  · intro hc ho
    rw [hcl, d.aborts, f.reader]
    rcases d.opened hc ho with hp | ⟨hc, ho, hno⟩
    · exact .inr (.inl ⟨loc', Pool.mem_set_self hloc, hp⟩)
    · rcases h.opened hc ho with hx | hx | hx
      · exact .inl hx
      · exact .inr (.inl (Pool.exists_set hx hloc fun hp => by rw [hno] at hp; cases hp))
      · exact .inr (.inr hx)
  · intro hc
    rcases d.closed with heq | ⟨h3, -⟩
    · rw [hcl, hwd]; exact h.closing (heq ▸ hc)
    · rw [hc] at h3; exact absurd h3 (by decide)
  · intro h3
    rcases d.closed with heq | ⟨-, hdr, -⟩
    · refine (h.reader (heq ▸ h3)).mono he (fun hx => f.reader ▸ hx) ?_ ?_ ?_
      · intro hx; exact .inr (.inr (.inr (.inl (f.writer ▸ hx))))
      · intro hx
        by_cases hr : s'.cells.readerAbort = true
        · exact .inl hr
        · refine .inr (.inr (.inr (.inr (.inl ?_))))
          rw [d.aborts]
          exact Pool.exists_set hx hloc fun hx => (d.doomsReader hx).resolve_right hr
      · intro hx; exact .inr (.inr (.inr (.inr (.inr (hwd ▸ hx)))))
    · exact .inr (.inr (.inr (.inr (.inl ⟨loc', d.aborts ▸ Pool.mem_set_self hloc, hdr⟩))))
  · intro h3
    rcases d.closed with heq | ⟨-, -, hdw⟩
    · refine (h.writer (heq ▸ h3)).mono he (fun hx => f.writer ▸ hx) ?_ ?_ ?_
      · intro hx; exact .inr (.inr (.inl (f.reader ▸ hx)))
      · intro hx
        by_cases hw : s'.cells.writerAbort = true
        · exact .inl hw
        · refine .inr (.inr (.inr (.inl ?_)))
          rw [d.aborts]
          exact Pool.exists_set hx hloc fun hx => (d.doomsWriter hx).resolve_right hw
      · intro hx; exact .inr (.inr (.inr (.inr (hwd ▸ hx))))
    · exact .inr (.inr (.inr (.inl ⟨loc', d.aborts ▸ Pool.mem_set_self hloc, hdw⟩)))

/-- The owner of a close has not been overtaken at the timeout flag. -/
theorem Guards.unarmed (h : Guards s) {l : CloseLoc} (hl : l ∈ s.closes) (hu : l.unarmed = 1) :
    s.cells.closeTimeoutStarted = false := by
  cases hs : s.cells.closeTimeoutStarted with
  | false => rfl
  | true =>
    have := Pool.eq_zero_of_weigh (h.started hs).2 hl
    omega

theorem responsible_close {i : Nat} {a : CallAct} (hl : Lifecycle s) (hg : Guards s)
    (h : Responsible s) (hst : step config s (.close i a) = some s') : Responsible s' := by
  have he := (lifecycle_step hl hst).2
  obtain ⟨loc, hloc, hst⟩ := Option.bind_eq_some_iff.mp hst
  obtain ⟨f, hab⟩ := closeStep_frame hst
  obtain ⟨loc', d⟩ := closeStep_duty (hg.unarmed (List.mem_of_getElem? hloc)) hst
  obtain ⟨ws, hws⟩ := d.watchdogs
  have hsame : 3 ≤ s'.cells.state.value.rank → 3 ≤ s.cells.state.value.rank := fun h3 => by
    rcases d.closed with heq | hlt
    · exact heq ▸ h3
    · omega
  have hwd : ∀ {P : WatchdogLoc → Prop}, (∃ w ∈ s.watchdogs, P w) → ∃ w ∈ s'.watchdogs, P w := by
    rintro P ⟨w, hw, hP⟩
    exact ⟨w, hws ▸ List.mem_append_left _ hw, hP⟩
  constructor
  · intro hc ho
    rw [d.closes, hab, f.reader]
    rcases d.opened hc ho with hp | ⟨hc, ho, hno⟩
    · exact .inl ⟨loc', Pool.mem_set_self hloc, hp⟩
    · rcases h.opened hc ho with hx | hx
      · exact .inl (Pool.exists_set hx hloc fun hp => by rw [hno] at hp; cases hp)
      · exact .inr hx
  · intro hc
    rw [d.closes]
    rcases d.closing hc with hp | hx | ⟨hc, hno⟩
    · exact .inl ⟨loc', Pool.mem_set_self hloc, hp⟩
    · exact .inr hx
    · rcases h.closing hc with hx | hx
      · exact .inl (Pool.exists_set hx hloc fun hp => by rw [hno] at hp; cases hp)
      · exact .inr (hwd hx)
  · intro h3
    refine (h.reader (hsame h3)).mono he (fun hx => f.reader ▸ hx) ?_ ?_ ?_
    · intro hx; exact .inr (.inr (.inr (.inl (f.writer ▸ hx))))
    · intro hx; exact .inr (.inr (.inr (.inr (.inl (hab ▸ hx)))))
    · intro hx; exact .inr (.inr (.inr (.inr (.inr (hwd hx)))))
  · intro h3
    refine (h.writer (hsame h3)).mono he (fun hx => f.writer ▸ hx) ?_ ?_ ?_
    · intro hx; exact .inr (.inr (.inl (f.reader ▸ hx)))
    · intro hx; exact .inr (.inr (.inr (.inl (hab ▸ hx))))
    · intro hx; exact .inr (.inr (.inr (.inr (hwd hx))))

theorem responsible_step (hl : Lifecycle s) (hk : PeerKept s) (hg : Guards s) (h : Responsible s)
    (hst : step config s l = some s') : Responsible s' := by
  have hstart : ∀ {x}, Responsible { s with aborts := s.aborts ++ [.store], driver := x } := fun {x} => by
    refine ⟨fun hc ho => ?_, h.closing, fun h3 => ?_, fun h3 => ?_⟩
    · exact (h.opened hc ho).imp_right (.imp_left Pool.exists_snoc)
    · refine (h.reader h3).mono (.refl _) id ?_ ?_ ?_
      · intro hx; exact .inr (.inr (.inr (.inl hx)))
      · intro hx; exact .inr (.inr (.inr (.inr (.inl (Pool.exists_snoc hx)))))
      · intro hx; exact .inr (.inr (.inr (.inr (.inr hx))))
    · refine (h.writer h3).mono (.refl _) id ?_ ?_ ?_
      · intro hx; exact .inr (.inr (.inl hx))
      · intro hx; exact .inr (.inr (.inr (.inl (Pool.exists_snoc hx))))
      · intro hx; exact .inr (.inr (.inr (.inr hx)))
  cases step_move hst with
  | reader => exact responsible_reader hl h hst
  | writer => exact responsible_writer hl hk h hst
  | control _ m =>
    cases m with
    | watchdog => exact responsible_watchdog hl h hst
    | close => exact responsible_close hl hg h hst
    | abort => exact responsible_abort hl h hst
    | callClose =>
      exact ⟨fun hc ho => (h.opened hc ho).imp_left Pool.exists_snoc,
        fun hc => (h.closing hc).imp_left Pool.exists_snoc, h.reader, h.writer⟩
    | callAbort => exact hstart
  | send f | receive f => exact h.of_frame f.cells f.reader f.writer f.watchdogs f.closes f.aborts
  | callAdmit | callReceive | dropFields => exact h.of_frame rfl rfl rfl rfl rfl rfl
  | dropDriver => exact hstart

/-- The invariants of a connection on its way down, together. -/
structure Supervised (s : St) : Prop where
  lifecycle : Lifecycle s
  peer : PeerKept s
  guards : Guards s
  responsible : Responsible s

theorem supervised_step (h : Supervised s) (hst : step config s l = some s') : Supervised s' :=
  ⟨(lifecycle_step h.lifecycle hst).1, peerKept_step h.lifecycle h.peer hst,
    guards_step h.lifecycle h.guards hst, responsible_step h.lifecycle h.peer h.guards h.responsible hst⟩

theorem supervised_reachable (h : Reachable config s) : Supervised s :=
  h.invariant ⟨lifecycle_start config, nofun, guards_start config, responsible_start config⟩
    fun _ _ _ => supervised_step

end FogWS
