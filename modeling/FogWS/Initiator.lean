import FogWS.PeerClose
/-!
# Who initiated the close

`initiated_by_local` is what the reader finds in the `closing` flag (driver.rs:477, :487, :506), and
`begin_close` sets that flag (`swap`, :355) one step before it commits the close to the state (:359). A
reader that loads the flag in between reports a close that nobody has begun: `begin_close` then finds the
state taken, and its own `started_local_close` is false.

| here | there |
| --- | --- |
| `DriverError.byLocal` | `CloseInfo::initiated_by_local` (error.rs:6) of an outcome |
| `CloseNote` | where `begin_close` stood when the reader loaded the flag, as an observer sees it |
| `Truthful`, `Raised` | what the field should tell |
| `FlagTold` | `begin_close` is not overtaken between its `swap` and its transition |
| `SignalTold` | nor between its transition and `signal_local_close` (:370) |

`signal_local_close` leaves a signal alone that is further on already. So `begin_close` may have called it,
or be about to (`Truthful.called`), and `LocalClose` never be the signal (`Raised`).
-/
namespace FogWS

/-- `initiated_by_local` of an outcome; errors other than a close do not carry it. -/
def DriverError.byLocal : DriverError → Bool
  | .closedOk info | .closedError info => info.initiatedByLocal
  | _ => false

/-! ## What an observer notes -/

structure CloseNote where
  /-- The peer's Close frame was taken while the state was `Open`. -/
  first : Bool
  /-- When the reader loaded the flag, a `begin_close` stood between its swap and its transition. -/
  between : Bool
  /-- When the reader loaded the flag, a `begin_close` had committed the close. -/
  committed : Bool
  /-- An outcome has been published for which a `begin_close` had swapped the flag by then. -/
  told : Bool
  /-- `signal_local_close` has been called. -/
  called : Bool
  deriving DecidableEq, Repr

def CloseNote.none : CloseNote := ⟨false, false, false, false, false⟩

/-- A `begin_close` had swapped the flag when the reader loaded it. -/
def CloseNote.swapped (n : CloseNote) : Bool := n.between || n.committed

def noteClose (n : CloseNote) (s : St) : Label → CloseNote
  | .reader (.item (some (.ok (.close _)))) => { n with first := s.cells.state.value = .opened }
  | .reader .next =>
    match s.reader.loc with
    | .closeTaken _ | .errTaken _ | .ended =>
      { n with
        between := s.closes.any CloseLoc.publishes
        committed := s.cells.state.value = .closing }
    | .finish _ => { n with told := n.told || (n.swapped && s.cells.state.value.rank < 2) }
    | _ => n
  | .close i .next =>
    match s.closes[i]? with
    | some .signal => { n with called := true }
    | _ => n
  | _ => n

/-- The driver with this observer. -/
abbrev observedStep (config : ConnectionConfig) : St × CloseNote → Label → Option (St × CloseNote) :=
  Lts.observe (step config) noteClose

/-! ## What the field should tell -/

/-- `signal_local_close` has been called, or a `begin_close` is just about to. -/
def Called (s : St) (n : CloseNote) : Prop := n.called = true ∨ .signal ∈ s.closes

/-- `initiated_by_local` tells the truth. -/
structure Truthful (s : St) (n : CloseNote) : Prop where
  /-- A close said to be local had become one: the state was `Closing` before it had the outcome. -/
  begun : ∀ e ∈ s.cells.state.value.outcome, e.byLocal = true → s.cells.state.Held .closing
  called : ∀ e ∈ s.cells.state.value.outcome, e.byLocal = true → Called s n
  /-- A close that the peer initiated on an open connection is not said to be local. -/
  peer : n.first = true → ∀ e ∈ s.cells.state.value.outcome, e.byLocal = false

/-- `LocalClose` has been the signal, or the next step of a `begin_close` makes it so. -/
def LocalSignal (s : St) : Prop :=
  s.cells.shutdown.Held .localClose ∨ .signal ∈ s.closes ∧ s.cells.shutdown.value = .running

/-- A close said to be local has been signalled as one, or will be. -/
def Raised (s : St) : Prop :=
  ∀ e ∈ s.cells.state.value.outcome, e.byLocal = true → LocalSignal s

/-! ## The conditions -/

/-- The reader publishes an outcome. If a `begin_close` stood between its swap and its transition when the
reader loaded the flag, it does not stand there still, on a state still `Open`; and if the reader loaded the
flag for a Close frame that it took while the state was `Open`, no `begin_close` had swapped it by then. -/
def FlagTold (sn : St × CloseNote) (l : Label) : Prop :=
  l = .reader .next → ∀ o, sn.1.reader.loc = .finish o → sn.1.cells.state.value.rank < 2 →
    (sn.2.between = true → sn.1.cells.state.value = .opened → .transition ∉ sn.1.closes) ∧
      (sn.2.first = true → sn.2.swapped = false)

/-- The next step of this label is `signal_peer_close` or `signal_abort` of a task. -/
def St.signalsPast (s : St) : Label → Bool
  | .reader .next =>
    match s.reader.loc with
    | .finishSignal _ | .failureSignal => true
    | _ => false
  | .writer .next => s.writer.loc.signals
  | _ => false

/-- An outcome loaded after a swap is published, and a `begin_close` has not signalled yet: no task raises
another signal before it. -/
def SignalTold (sn : St × CloseNote) (l : Label) : Prop :=
  sn.2.told = true → .signal ∈ sn.1.closes → sn.1.cells.shutdown.value = .running →
    sn.1.signalsPast l = false

/-! ## What is true of every run -/

/-- The flag was `b` when the reader loaded it. -/
structure Sampled (s : St) (n : CloseNote) (b : Bool) : Prop where
  noted : b = true → n.swapped = true ∨ 2 ≤ s.cells.state.value.rank
  swapped : n.swapped = true → b = true
  committed : n.committed = true → s.cells.state.value ≠ .opened
  between : n.between = true → s.cells.state.value = .opened → ∃ c ∈ s.closes, c.publishes = true

/-- What the reader carries is what it has loaded. -/
def ReaderLoc.Loaded (s : St) (n : CloseNote) : ReaderLoc → Prop
  | .closeMark _ b => Sampled s n b
  | .finish o => Sampled s n o.byLocal
  | .failure terminal => terminal.byLocal = false
  | _ => True

/-- The invariant of the runs without `abort`. -/
structure Noted (s : St) (n : CloseNote) : Prop where
  aborts : s.aborts = []
  loaded : s.reader.loc.Loaded s n
  /-- The local close that has made the state `Closing` is signalled, or is about to be. -/
  closing : s.cells.state.value = .closing → LocalSignal s ∧ Called s n
  told : n.told = true ↔ ∃ e ∈ s.cells.state.value.outcome, e.byLocal = true

theorem noted_start (config : ConnectionConfig) : Noted (start config) .none :=
  ⟨rfl, trivial, nofun, nofun, by rintro ⟨e, ⟨⟩, -⟩⟩

variable {config : ConnectionConfig} {s s' : St} {l : Label} {n : CloseNote}

theorem publishes_iff_mem : (∃ c ∈ s.closes, c.publishes = true) ↔ .transition ∈ s.closes := by
  constructor
  · rintro ⟨c, hc, hp⟩
    cases c with
    | transition => exact hc
    | _ => cases hp
  · exact fun h => ⟨_, h, rfl⟩

/-! ## What the reader samples -/

theorem classifyClose_byLocal (frame : Option CloseFrame) (b : Bool) :
    (classifyClose frame b).byLocal = b := by
  unfold classifyClose
  split
  · rfl
  · dsimp only
    split <;> rfl

theorem Sampled.of_eq {b : Bool} (h : Sampled s n b) (hst : s'.cells.state = s.cells.state)
    (hcl : s'.closes = s.closes) : Sampled s' n b :=
  ⟨by rw [hst]; exact h.noted, h.swapped, by rw [hst]; exact h.committed, by rw [hst, hcl]; exact h.between⟩

/-- An outcome of the end of the stream is local if it is clean, and it is clean only if the flag was set. -/
theorem loaded_conclude {b : Bool} {t : DriverError} (h : Sampled s n b)
    (ht : t.byLocal = t.isClosedOk) (hb : t.isClosedOk = true → b = true) :
    (ReaderLoc.conclude t).Loaded s n := by
  unfold ReaderLoc.conclude
  by_cases hc : t.isClosedOk = true
  · rw [if_pos hc]
    show Sampled s n t.byLocal
    rw [ht, hc, ← hb hc]
    exact h
  · rw [if_neg hc]
    exact ht.trans (by simpa using hc)

theorem receiveFailure_byLocal (b : Bool) (e : WsError) :
    (receiveFailure b e).byLocal = (receiveFailure b e).isClosedOk ∧
      ((receiveFailure b e).isClosedOk = true → b = true) := by
  unfold receiveFailure
  split
  · rename_i h
    exact ⟨rfl, fun _ => h.1⟩
  · exact ⟨rfl, nofun⟩

theorem streamEnd_byLocal (b : Bool) :
    (streamEnd b).byLocal = (streamEnd b).isClosedOk ∧ ((streamEnd b).isClosedOk = true → b = true) := by
  cases b
  · exact ⟨rfl, nofun⟩
  · exact ⟨rfl, fun _ => rfl⟩

/-- With the flag set and the state `Open`, a reader that is not about to publish leaves only a close
on its way to the transition. -/
theorem Responsible.publishes (h : Responsible s) (hab : s.aborts = [])
    (hr : s.reader.loc.publishesPeer = false) (hcl : s.cells.closing = true)
    (ho : s.cells.state.value = .opened) : ∃ c ∈ s.closes, c.publishes = true := by
  rcases h.opened hcl ho with hx | ⟨a, ha, -⟩ | hx
  · exact hx
  · rw [hab] at ha; cases ha
  · rw [hr] at hx; cases hx

/-- The load of the flag, with what the observer notes of it. -/
theorem sampled_load (hl : Lifecycle s) (hr : Responsible s) (hab : s.aborts = [])
    (hpub : s.reader.loc.publishesPeer = false) :
    Sampled s { n with
      between := s.closes.any CloseLoc.publishes
      committed := s.cells.state.value = .closing } s.cells.closing := by
  refine ⟨fun hcl => ?_, fun hsw => ?_, fun hc ho => ?_, fun hb _ => List.any_eq_true.mp hb⟩
  · cases hv : s.cells.state.value with
    | opened =>
      have := List.any_eq_true.mpr (hr.publishes hab hpub hcl hv)
      exact .inl (by simp [CloseNote.swapped, this])
    | closing => exact .inl (by simp [CloseNote.swapped])
    | peerClosed | closed => exact .inr (by simp [DriverState.rank])
  · rcases Bool.or_eq_true_iff.mp hsw with hb | hc
    · obtain ⟨c, hc, hp⟩ := List.any_eq_true.mp hb
      have hok := hl.closes c hc
      cases c with
      | transition => exact hok
      | _ => cases hp
    · have hv : s.cells.state.value = .closing := of_decide_eq_true hc
      exact hl.cells.closing (by rw [hv]; decide) (by rw [hv]; decide)
  · rw [of_decide_eq_true hc] at ho; cases ho

theorem readerStep_loaded {a : ReaderAct} (hl : Lifecycle s) (hr : Responsible s) (hab : s.aborts = [])
    (hk : s.reader.loc.Loaded s n) (h : step config s (.reader a) = some s') :
    s'.reader.loc.Loaded s' (noteClose n s (.reader a)) := by
  have hload := sampled_load (n := n) hl hr hab
  simp only [step] at h
  generalize hloc : s.reader.loc = loc at h hk hload
  cases readerStep_rule h with
  | closeTaken frame =>
    simp only [noteClose, hloc]
    exact (hload rfl).of_eq rfl rfl
  | closeMark frame b =>
    simp only [noteClose, hloc]
    show Sampled _ n (classifyClose frame b).byLocal
    rw [classifyClose_byLocal]
    exact Sampled.of_eq hk rfl rfl
  | errTaken error =>
    obtain ⟨ht, hb⟩ := receiveFailure_byLocal s.cells.closing error
    simp only [noteClose, hloc]
    exact loaded_conclude ((hload rfl).of_eq rfl rfl) ht hb
  | ended =>
    obtain ⟨ht, hb⟩ := streamEnd_byLocal s.cells.closing
    simp only [noteClose, hloc]
    exact loaded_conclude ((hload rfl).of_eq rfl rfl) ht hb
  | _ => trivial

/-! ## What is published -/

/-- The failure of a task is a transport error: what it publishes says nothing of a local close. -/
theorem writerFailure_outcome {v : DriverState} {m : String} {e : DriverError}
    (he : e ∈ (DriverState.closed (Cells.writerFailureOutcome v (.transport m))).outcome)
    (hb : e.byLocal = true) : e ∈ v.outcome := by
  cases v with
  | closed x | peerClosed x => exact he
  | closing | opened => cases he; cases hb

/-- A terminal outcome is published on a state that has it already, or has another. -/
theorem publishTerminal_outcome {c : Cells} {o e : DriverError}
    (ho : c.state.value = .peerClosed o ∨ 3 ≤ c.state.value.rank)
    (he : e ∈ (c.publishTerminal o).state.value.outcome) : e ∈ c.state.value.outcome := by
  rw [Cells.publishTerminal_value] at he
  split at he
  · exact he
  · rename_i hn
    rcases ho with ho | h3
    · rw [ho]; exact he
    · exact absurd (DriverState.isTerminal_iff.mpr h3) hn

theorem writerStep_outcome {loc : WriterLoc} {a : WriterAct} (hok : loc.Ok s.cells s.writer.seen)
    (hft : loc.failsTransport) (h : writerStep s loc a = some s') :
    ∀ e ∈ s'.cells.state.value.outcome, e.byLocal = true → e ∈ s.cells.state.value.outcome := by
  intro e he hb
  cases writerStep_rule h with
  | closePublish => exact publishTerminal_outcome hok he
  | fail =>
    obtain ⟨m, rfl⟩ := hft
    dsimp only [St.writerAt] at he
    rw [Cells.publishWriterFailure_value] at he
    exact writerFailure_outcome he hb
  | _ => exact he

/-- Only the reader publishes an outcome that is said to be local. -/
theorem step_outcome (hl : Lifecycle s) (hab : s.aborts = []) (hft : s.writer.loc.failsTransport)
    (hr : ∀ a, l ≠ .reader a) (hst : step config s l = some s') :
    ∀ e ∈ s'.cells.state.value.outcome, e.byLocal = true → e ∈ s.cells.state.value.outcome := by
  intro e he hb
  cases step_move hst with
  | reader => exact absurd rfl (hr _)
  | writer _ hst => exact writerStep_outcome hl.writer.2 hft hst e he hb
  | control _ m =>
    cases m with
    | watchdog _ hst =>
      cases watchdogStep_rule hst with
      | expired =>
        dsimp only [St.watchdogAt] at he
        rw [Cells.publishCloseTimeout_value] at he
        exact writerFailure_outcome he hb
      | _ => exact he
    | close _ hst =>
      rcases closeStep_state hst with hs | ⟨-, hs⟩
      · rwa [hs] at he
      · rw [hs] at he; cases he
    | abort hloc => rw [hab] at hloc; cases hloc
    | callClose | callAbort => exact he
  | send f | receive f => rwa [f.cells] at he
  | callAdmit | callReceive | dropDriver | dropFields => exact he

theorem readerStep_outcome {a : ReaderAct} (hl : Lifecycle s) (hk : PeerKept s)
    (hkn : s.reader.loc.Loaded s n) (h : step config s (.reader a) = some s') :
    ∀ e ∈ s'.cells.state.value.outcome, e.byLocal = true → e ∈ s.cells.state.value.outcome ∨
      s.reader.loc = .finish e ∧ a = .next ∧ s.cells.state.value.rank < 2 := by
  intro e he hb
  have hok := hl.reader.2
  have hsig := hl.cells.signal_le
  simp only [step] at h
  generalize hloc : s.reader.loc = loc at h hkn hok ⊢
  cases readerStep_rule h with
  | finish o =>
    dsimp only [St.readerAt] at he
    rw [Cells.publishPeerClosed_value] at he
    split at he
    · obtain rfl : o = e := Option.some.inj he
      exact .inr ⟨rfl, rfl, ‹_›⟩
    · exact .inl he
  | finishExpired o =>
    -- the peer's outcome is published by now
    refine .inl (publishTerminal_outcome ?_ he)
    have h2 : 2 ≤ s.cells.state.value.rank := Nat.le_trans hok hsig
    cases hv : s.cells.state.value with
    | peerClosed o' =>
      have := hk o' hv
      rw [hloc] at this
      cases this; exact .inl rfl
    | closed => exact .inr (Nat.le_refl _)
    | opened | closing => rw [hv] at h2; exact absurd h2 (by decide)
  | failure t =>
    dsimp only [St.readerAt] at he
    rw [Cells.publishTerminal_value] at he
    split at he
    · exact .inl he
    · obtain rfl : t = e := Option.some.inj he
      rw [show t.byLocal = false from hkn] at hb; cases hb
  | _ => exact .inl he

/-- What the observer notes of a step of another process. -/
theorem noteClose_of_ne (hr : ∀ a, l ≠ .reader a) : (noteClose n s l).first = n.first ∧
    (noteClose n s l).between = n.between ∧ (noteClose n s l).committed = n.committed ∧
      (noteClose n s l).told = n.told := by
  unfold noteClose
  split
  · exact absurd rfl (hr _)
  · exact absurd rfl (hr _)
  · split <;> exact ⟨rfl, rfl, rfl, rfl⟩
  · exact ⟨rfl, rfl, rfl, rfl⟩

/-! ## The other processes -/

theorem abortPublishes_of_nil (hab : s.aborts = []) : s.abortPublishes l = false := by
  cases l <;> first | rfl | simp [St.abortPublishes, hab]

/-- A close on its way to the transition stays there as long as the state is `Open`. -/
theorem step_publishes (hl : Lifecycle s) (hg : Guards s) (hab : s.aborts = []) (hr : ∀ a, l ≠ .reader a)
    (hst : step config s l = some s') (ho : s'.cells.state.value = .opened) :
    s.cells.state.value = .opened ∧
      ((∃ c ∈ s.closes, c.publishes = true) → ∃ c ∈ s'.closes, c.publishes = true) := by
  have hopen : s.cells.state.value = .opened := by
    rcases step_respectsPeer hl hr (abortPublishes_of_nil hab) hst with h | ⟨-, h⟩ | ⟨e, h, -⟩
    · rw [← h]; exact ho
    · rw [h] at ho; cases ho
    · rw [h] at ho; cases ho
  refine ⟨hopen, fun hx => ?_⟩
  have he := (lifecycle_step hl hst).2
  cases step_move hst with
  | reader => exact absurd rfl (hr _)
  | writer f | send f | receive f => rw [f.closes]; exact hx
  | control f m =>
    cases m with
    | watchdog _ _ hcl | abort _ _ hcl => rw [hcl]; exact hx
    | @close _ _ loc _ hloc hst =>
      have hmem := List.mem_of_getElem? hloc
      obtain ⟨loc', d⟩ := closeStep_duty (hg.unarmed hmem) hst
      rw [d.closes]
      refine Pool.exists_set hx hloc fun hp => ?_
      cases loc with
      | transition =>
        -- its own step would commit the close
        rcases d.opened (he.closing (hl.closes _ hmem)) ho with h | ⟨-, -, h⟩
        · exact h
        · cases h
      | _ => cases hp
    | callClose => exact Pool.exists_snoc hx
    | callAbort => exact hx
  | callAdmit | callReceive | dropDriver | dropFields => exact hx

/-- What was sampled stays true of a state that has moved on, as long as the close is on its way. -/
theorem Sampled.mono {n' : CloseNote} {b : Bool} (h : Sampled s n b)
    (hrank : s.cells.state.value.rank ≤ s'.cells.state.value.rank)
    (hn : n'.between = n.between ∧ n'.committed = n.committed)
    (ho : s'.cells.state.value = .opened → s.cells.state.value = .opened ∧
      ((∃ c ∈ s.closes, c.publishes = true) → ∃ c ∈ s'.closes, c.publishes = true)) :
    Sampled s' n' b := by
  have hsw : n'.swapped = n.swapped := by rw [CloseNote.swapped, CloseNote.swapped, hn.1, hn.2]
  refine ⟨fun hb => ?_, fun hx => h.swapped (hsw ▸ hx), fun hc hop => ?_, fun hb hop => ?_⟩
  · rw [hsw]
    exact (h.noted hb).imp_right fun h2 => Nat.le_trans h2 hrank
  · exact h.committed (hn.2 ▸ hc) (ho hop).1
  · exact (ho hop).2 (h.between (hn.1 ▸ hb) (ho hop).1)

theorem ReaderLoc.Loaded.mono {n' : CloseNote} {loc : ReaderLoc} (h : loc.Loaded s n)
    (hrank : s.cells.state.value.rank ≤ s'.cells.state.value.rank)
    (hn : n'.between = n.between ∧ n'.committed = n.committed)
    (ho : s'.cells.state.value = .opened → s.cells.state.value = .opened ∧
      ((∃ c ∈ s.closes, c.publishes = true) → ∃ c ∈ s'.closes, c.publishes = true)) :
    loc.Loaded s' n' := by
  cases loc with
  | closeMark | finish => exact Sampled.mono h hrank hn ho
  | failure => exact h
  | _ => trivial

/-! ## The signal of the local close -/

/-- A close that is about to signal stays there until it does. -/
theorem signal_mem_step (hab : s.aborts = []) (h : .signal ∈ s.closes) (hst : step config s l = some s') :
    .signal ∈ s'.closes ∨ ∃ i : Nat, l = .close i .next ∧ s.closes[i]? = some .signal := by
  cases step_move hst with
  | reader f | writer f | send f | receive f => rw [f.closes]; exact .inl h
  | control f m =>
    cases m with
    | watchdog _ _ hcl => rw [hcl]; exact .inl h
    | abort hloc => rw [hab] at hloc; cases hloc
    | callClose => exact .inl (List.mem_append_left _ h)
    | callAbort => exact .inl h
    | @close i a loc _ hloc hst =>
      by_cases hsig : loc = .signal
      · subst hsig
        cases closeStep_rule hst with
        | signal => exact .inr ⟨i, rfl, hloc⟩
      · -- another close: the one about to signal is not touched
        obtain ⟨loc', hset⟩ : ∃ loc', s'.closes = s.closes.set i loc' := by
          cases closeStep_rule hst <;> exact ⟨_, rfl⟩
        rw [hset]
        obtain ⟨c, hc, rfl⟩ := Pool.exists_set (q := loc') ⟨_, h, rfl⟩ hloc fun he => absurd he.symm hsig
        exact .inl hc
  | callAdmit | callReceive | dropDriver | dropFields => exact .inl h

theorem called_step (hab : s.aborts = []) (h : Called s n) (hst : step config s l = some s') :
    Called s' (noteClose n s l) := by
  have hkeep : n.called = true → (noteClose n s l).called = true := by
    intro hn
    unfold noteClose
    split
    · exact hn
    · split <;> exact hn
    · split
      · rfl
      · exact hn
    · exact hn
  rcases h with hn | hmem
  · exact .inl (hkeep hn)
  · rcases signal_mem_step hab hmem hst with hmem' | ⟨i, rfl, hi⟩
    · exact .inr hmem'
    · exact .inl (by simp [noteClose, hi])

/-- While the signal is `Running`, only a close that is about to signal makes it something else, unless a
task does. -/
theorem shutdown_step (hab : s.aborts = []) (hno : s.signalsPast l = false)
    (hst : step config s l = some s') : s'.cells.shutdown = s.cells.shutdown ∨
      ∃ i : Nat, l = .close i .next ∧ s.closes[i]? = some .signal := by
  cases step_move hst with
  | reader _ hst =>
    generalize hloc : s.reader.loc = loc at hst
    cases readerStep_rule hst with
    | finishSignal | failureSignal => simp [St.signalsPast, hloc] at hno
    | _ => exact .inl rfl
  | writer _ hst =>
    generalize hloc : s.writer.loc = loc at hst
    cases writerStep_rule hst with
    | failSignal | failSignalCommand => simp [St.signalsPast, hloc, WriterLoc.signals] at hno
    | _ => exact .inl rfl
  | control _ m =>
    cases m with
    | watchdog _ hst => cases watchdogStep_rule hst <;> exact .inl rfl
    | close hloc hst =>
      cases closeStep_rule hst with
      | signal => exact .inr ⟨_, rfl, hloc⟩
      | _ => exact .inl rfl
    | abort hloc => rw [hab] at hloc; cases hloc
    | callClose | callAbort => exact .inl rfl
  | send f | receive f => rw [f.cells]; exact .inl rfl
  | callAdmit | callReceive | dropDriver | dropFields => exact .inl rfl

theorem signal_value {i : Nat} (hi : s.closes[i]? = some .signal) (hrun : s.cells.shutdown.value = .running)
    (hst : step config s (.close i .next) = some s') : s'.cells.shutdown.value = .localClose := by
  simp only [step, hi, Option.bind_some, closeStep, Option.some.injEq] at hst
  subst hst
  rw [Cells.signalLocalClose_value, if_pos hrun]

/-- Unless a task signals first, `LocalClose` is raised. -/
theorem localSignal_step (hl : Lifecycle s) (hab : s.aborts = []) (h : LocalSignal s)
    (hno : .signal ∈ s.closes → s.cells.shutdown.value = .running → s.signalsPast l = false)
    (hst : step config s l = some s') : LocalSignal s' := by
  rcases h with hheld | ⟨hmem, hrun⟩
  · exact .inl ((lifecycle_step hl hst).2.shutdown.held hheld)
  have hraised : ∀ i : Nat, l = .close i .next → s.closes[i]? = some .signal → LocalSignal s' := by
    rintro i rfl hi
    refine .inl ?_
    rw [← signal_value hi hrun hst]
    exact s'.cells.shutdown.held_value
  rcases shutdown_step hab (hno hmem hrun) hst with hsd | ⟨i, hli, hi⟩
  · rcases signal_mem_step hab hmem hst with hmem' | ⟨i, hli, hi⟩
    · exact .inr ⟨hmem', by rw [hsd]; exact hrun⟩
    · exact hraised i hli hi
  · exact hraised i hli hi

/-- A task signals only when the peer has closed, or the connection is over. -/
theorem rank_of_signalsPast (hl : Lifecycle s) (h : s.signalsPast l = true) :
    2 ≤ s.cells.state.value.rank := by
  unfold St.signalsPast at h
  split at h
  · split at h
    · rename_i hloc
      have := hl.reader.2
      rw [hloc] at this; exact this
    · rename_i hloc
      have := hl.reader.2
      rw [hloc] at this; exact Nat.le_of_succ_le this
    · cases h
  · have hok := hl.writer.2
    cases hloc : s.writer.loc with
    | failSignal t c =>
      rw [hloc] at hok
      rw [show s.cells.state.value = .closed t from hok]
      exact Nat.le_succ 2
    | _ => rw [hloc] at h; cases h
  · cases h

/-- The state becomes `Closing` when a `begin_close` commits. -/
theorem closing_of_step (hl : Lifecycle s) (hab : s.aborts = []) (hst : step config s l = some s')
    (hc : s'.cells.state.value = .closing) : s.cells.state.value = .closing ∨
      s.cells.state.value = .opened ∧ .signal ∈ s'.closes ∧ s'.cells.shutdown = s.cells.shutdown := by
  have hnot : ¬3 ≤ s'.cells.state.value.rank := by rw [hc]; decide
  cases step_move hst with
  | reader _ hst => exact .inl ((readerStep_duty hst).closing hc)
  | writer _ hst =>
    rcases (writerStep_duty hl.writer.2 hst).closed with hs | ⟨h3, -⟩
    · exact .inl (hs ▸ hc)
    · exact absurd h3 hnot
  | control _ m =>
    cases m with
    | watchdog _ hst =>
      obtain ⟨_, d⟩ := watchdogStep_duty hst
      rcases d.closed with hs | ⟨h3, -⟩
      · exact .inl (hs ▸ hc)
      · exact absurd h3 hnot
    | close hloc hst =>
      cases closeStep_rule hst with
      | transition ho => exact .inr ⟨ho, Pool.mem_set_self hloc, rfl⟩
      | transitionLate ho =>
        have hv := Cells.publishClosing_value s.cells
        rw [if_neg ho] at hv
        exact .inl (hv ▸ hc)
      | _ => exact .inl hc
    | abort hloc => rw [hab] at hloc; cases hloc
    | callClose | callAbort => exact .inl hc
  | send f | receive f => rw [f.cells] at hc; exact .inl hc
  | callAdmit | callReceive | dropDriver | dropFields => exact .inl hc

/-- The commit is followed by the signal, with no await in between. -/
theorem noted_closing (hl : Lifecycle s) (h : Noted s n) (hst : step config s l = some s')
    (hc : s'.cells.state.value = .closing) : LocalSignal s' ∧ Called s' (noteClose n s l) := by
  rcases closing_of_step hl h.aborts hst hc with hc | ⟨ho, hmem, hsd⟩
  · obtain ⟨hsig, hcalled⟩ := h.closing hc
    refine ⟨localSignal_step hl h.aborts hsig (fun _ _ => ?_) hst, called_step h.aborts hcalled hst⟩
    by_contra hpast
    have := rank_of_signalsPast hl (by simpa using hpast)
    rw [hc] at this
    exact absurd this (by decide)
  · have hle := hl.cells.signal_le
    rw [ho] at hle
    exact ⟨.inr ⟨hmem, by rw [hsd]; exact ShutdownSignal.rank_eq_zero.mp (Nat.le_zero.mp hle)⟩, .inr hmem⟩

/-! ## What is told -/

theorem outcome_iff {v : DriverState} {e : DriverError} :
    e ∈ v.outcome ↔ v = .peerClosed e ∨ v = .closed e := by
  cases v <;> simp [DriverState.outcome]

theorem published_value {o : DriverError} (hloc : s.reader.loc = .finish o)
    (hlt : s.cells.state.value.rank < 2) (hst : step config s (.reader .next) = some s') :
    s'.cells.state.value = .peerClosed o := by
  simp only [step, hloc, readerStep, Option.some.injEq] at hst
  subst hst
  dsimp only [St.readerAt]
  rw [Cells.publishPeerClosed_value, if_pos hlt]

theorem told_kept (h : n.told = true) : (noteClose n s l).told = true := by
  unfold noteClose
  split
  · exact h
  · split
    · exact h
    · exact h
    · exact h
    · simp [h]
    · exact h
  · split <;> exact h
  · exact h

theorem told_new (h : (noteClose n s l).told = true) : n.told = true ∨ l = .reader .next ∧
    ∃ o, s.reader.loc = .finish o ∧ n.swapped = true ∧ s.cells.state.value.rank < 2 := by
  unfold noteClose at h
  split at h
  · exact .inl h
  · split at h
    · exact .inl h
    · exact .inl h
    · exact .inl h
    · rename_i o hloc
      rcases Bool.or_eq_true_iff.mp h with h | h
      · exact .inl h
      · obtain ⟨hsw, hlt⟩ := Bool.and_eq_true_iff.mp h
        exact .inr ⟨rfl, o, hloc, hsw, of_decide_eq_true hlt⟩
    · exact .inl h
  · split at h <;> exact .inl h
  · exact .inl h

/-- An outcome said to be local that a step leaves was there, or is the reader's. -/
theorem local_outcome_step (hsup : Supervised s) (hft : s.writer.loc.failsTransport) (h : Noted s n)
    (hst : step config s l = some s') {e : DriverError} (he : e ∈ s'.cells.state.value.outcome)
    (hb : e.byLocal = true) : e ∈ s.cells.state.value.outcome ∨
      l = .reader .next ∧ s.reader.loc = .finish e ∧ s.cells.state.value.rank < 2 := by
  by_cases hr : ∃ a, l = .reader a
  · obtain ⟨a, rfl⟩ := hr
    rcases readerStep_outcome hsup.lifecycle hsup.peer h.loaded hst e he hb with he | ⟨hloc, rfl, hlt⟩
    · exact .inl he
    · exact .inr ⟨rfl, hloc, hlt⟩
  · exact .inl (step_outcome hsup.lifecycle h.aborts hft (fun a ha => hr ⟨a, ha⟩) hst e he hb)

theorem told_step (hsup : Supervised s) (hft : s.writer.loc.failsTransport) (h : Noted s n)
    (hst : step config s l = some s') : (noteClose n s l).told = true ↔
      ∃ e ∈ s'.cells.state.value.outcome, e.byLocal = true := by
  constructor
  · intro ht
    rcases told_new ht with ht | ⟨rfl, o, hloc, hsw, hlt⟩
    · obtain ⟨e, he, hb⟩ := h.told.mp ht
      have hkept := peer_outcome_step hsup.lifecycle hsup.peer (outcome_iff.mp he)
        (abortPublishes_of_nil h.aborts) hst
      exact ⟨e, outcome_iff.mpr hkept, hb⟩
    · have hsam := h.loaded
      rw [hloc] at hsam
      exact ⟨o, outcome_iff.mpr (.inl (published_value hloc hlt hst)), hsam.swapped hsw⟩
  · rintro ⟨e, he, hb⟩
    rcases local_outcome_step hsup hft h hst he hb with he | ⟨rfl, hloc, hlt⟩
    · exact told_kept (h.told.mpr ⟨e, he, hb⟩)
    · have hsam := h.loaded
      rw [hloc] at hsam
      have hsw := (hsam.noted hb).resolve_right (Nat.not_le.mpr hlt)
      simp [noteClose, hloc, hsw, hlt]

theorem noted_step (hsup : Supervised s) (hft : s.writer.loc.failsTransport) (h : Noted s n)
    (hno : l.abandons = false) (hst : step config s l = some s') : Noted s' (noteClose n s l) := by
  refine ⟨step_aborts h.aborts hno hst, ?_, noted_closing hsup.lifecycle h hst,
    told_step hsup hft h hst⟩
  by_cases hr : ∃ a, l = .reader a
  · obtain ⟨a, rfl⟩ := hr
    exact readerStep_loaded hsup.lifecycle hsup.responsible h.aborts h.loaded hst
  · have hr : ∀ a, l ≠ .reader a := fun a ha => hr ⟨a, ha⟩
    obtain ⟨-, hbetween, hcommitted, -⟩ := noteClose_of_ne (n := n) (s := s) hr
    rw [step_reader_eq hr hst]
    exact h.loaded.mono (lifecycle_step hsup.lifecycle hst).2.rank_le ⟨hbetween, hcommitted⟩
      (step_publishes hsup.lifecycle hsup.guards h.aborts hr hst)

/-! ## Every step -/

/-- The reader publishes a local outcome on a state that has become `Closing`. -/
theorem closing_of_told {o : DriverError} (h : Noted s n) (hok : FlagTold (s, n) (.reader .next))
    (hloc : s.reader.loc = .finish o) (hlt : s.cells.state.value.rank < 2) (hb : o.byLocal = true) :
    s.cells.state.value = .closing ∧ n.first = false := by
  have hsam := h.loaded
  rw [hloc] at hsam
  have hsw := (hsam.noted hb).resolve_right (Nat.not_le.mpr hlt)
  obtain ⟨hbetween, hfirst⟩ := hok rfl o hloc hlt
  refine ⟨?_, Bool.eq_false_iff.mpr fun hf => absurd hsw (by simp [hfirst hf])⟩
  cases hv : s.cells.state.value with
  | closing => rfl
  | opened =>
    rcases Bool.or_eq_true_iff.mp hsw with hx | hx
    · exact absurd (publishes_iff_mem.mp (hsam.between hx hv)) (hbetween hx hv)
    · exact absurd hv (hsam.committed hx)
  | peerClosed | closed => rw [hv] at hlt; exact absurd hlt (by simp [DriverState.rank])

/-- A Close frame taken on an open connection finds no outcome there. -/
theorem first_step (hp : n.first = true → ∀ e ∈ s.cells.state.value.outcome, e.byLocal = false)
    (hf : (noteClose n s l).first = true) {e : DriverError} (he : e ∈ s.cells.state.value.outcome) :
    e.byLocal = false := by
  unfold noteClose at hf
  split at hf
  · rw [of_decide_eq_true hf] at he; cases he
  · split at hf <;> exact hp hf e he
  · split at hf <;> exact hp hf e he
  · exact hp hf e he

theorem first_of_finish {o : DriverError} (hloc : s.reader.loc = .finish o) :
    (noteClose n s (.reader .next)).first = n.first := by
  simp [noteClose, hloc]

theorem truthful_step (hsup : Supervised s) (hft : s.writer.loc.failsTransport) (h : Noted s n)
    (ht : Truthful s n) (hok : FlagTold (s, n) l) (hst : step config s l = some s') :
    Truthful s' (noteClose n s l) := by
  have hstate := (lifecycle_step hsup.lifecycle hst).2.state
  have hout := fun {e} => local_outcome_step hsup hft h hst (e := e)
  refine ⟨fun e he hb => ?_, fun e he hb => ?_, fun hf e he => Bool.eq_false_iff.mpr fun hb => ?_⟩
  · rcases hout he hb with he | ⟨rfl, hloc, hlt⟩
    · exact hstate.held (ht.begun e he hb)
    · have hc := (closing_of_told h hok hloc hlt hb).1
      exact hstate.held (hc ▸ s.cells.state.held_value)
  · rcases hout he hb with he | ⟨rfl, hloc, hlt⟩
    · exact called_step h.aborts (ht.called e he hb) hst
    · exact called_step h.aborts (h.closing (closing_of_told h hok hloc hlt hb).1).2 hst
  · rcases hout he hb with he | ⟨rfl, hloc, hlt⟩
    · exact absurd hb (by simp [first_step ht.peer hf he])
    · rw [first_of_finish hloc, (closing_of_told h hok hloc hlt hb).2] at hf
      cases hf

theorem raised_step (hsup : Supervised s) (hft : s.writer.loc.failsTransport) (h : Noted s n)
    (hr : Raised s) (hok : FlagTold (s, n) l) (hsig : SignalTold (s, n) l)
    (hst : step config s l = some s') : Raised s' := by
  intro e he hb
  rcases local_outcome_step hsup hft h hst he hb with he | ⟨rfl, hloc, hlt⟩
  · exact localSignal_step hsup.lifecycle h.aborts (hr e he hb) (hsig (h.told.mpr ⟨e, he, hb⟩)) hst
  · exact localSignal_step hsup.lifecycle h.aborts
      (h.closing (closing_of_told h hok hloc hlt hb).1).1 (fun _ _ => by simp [St.signalsPast, hloc]) hst

/-! ## Going by a flag that is ahead -/

/-- An outcome published on an open state was never preceded by `Closing`. -/
theorem published_unbegun {o : DriverError} (hc : s.cells.Coherent) (hloc : s.reader.loc = .finish o)
    (ho : s.cells.state.value = .opened) (hst : step config s (.reader .next) = some s') :
    ¬s'.cells.state.Held .closing := by
  have hnot : ¬s.cells.state.Held .closing := fun hx => by
    have := hc.states.held_le hx
    rw [ho] at this
    exact absurd this (by decide)
  simp only [step, hloc, readerStep, Option.some.injEq] at hst
  subst hst
  have hpub : (s.cells.publishPeerClosed o).state = ⟨.peerClosed o, s.cells.state.values⟩ := by
    unfold Cells.publishPeerClosed
    dsimp only
    exact Watch.sendIfModified_some (by rw [ho])
  dsimp only [St.readerAt]
  rw [hpub]
  intro hx
  rcases List.mem_cons.mp hx with hx | hx
  · cases hx
  · exact hnot hx

/-- A step that breaks the condition leaves a field that does not tell the truth. -/
theorem flagTold_of_truthful (hl : Lifecycle s) (h : Noted s n) (hst : step config s l = some s')
    (ht : Truthful s' (noteClose n s l)) : FlagTold (s, n) l := by
  rintro rfl o hloc hlt
  have hsam := h.loaded
  rw [hloc] at hsam
  have hmem : o ∈ s'.cells.state.value.outcome := outcome_iff.mpr (.inl (published_value hloc hlt hst))
  refine ⟨fun hbetween ho _ => ?_, fun hf => Bool.eq_false_iff.mpr fun hsw => ?_⟩
  · have hb := hsam.swapped (Bool.or_eq_true_iff.mpr (.inl hbetween))
    exact published_unbegun hl.cells hloc ho hst (ht.begun o hmem hb)
  · have hb := ht.peer ((first_of_finish hloc).trans hf) o hmem
    rw [hsam.swapped hsw] at hb; cases hb

/-- The signals that a task raises. -/
theorem past_shutdown (hpast : s.signalsPast l = true) (hst : step config s l = some s') :
    s'.cells.shutdown = s.cells.signalPeerClose.shutdown ∨
      s'.cells.shutdown = s.cells.signalAbort.shutdown := by
  unfold St.signalsPast at hpast
  split at hpast
  · split at hpast
    · rename_i hloc
      simp only [step, hloc, readerStep, Option.some.injEq] at hst
      exact .inl (hst ▸ rfl)
    · rename_i hloc
      simp only [step, hloc, readerStep, Option.some.injEq] at hst
      exact .inr (hst ▸ rfl)
    · cases hpast
  · cases hloc : s.writer.loc with
    | failSignal =>
      simp only [step, hloc, writerStep, Option.some.injEq] at hst
      exact .inr (hst ▸ rfl)
    | _ => rw [hloc] at hpast; cases hpast
  · cases hpast

/-- After another signal, `LocalClose` is never raised. -/
theorem unraised_of_past (hl : Lifecycle s) (hrun : s.cells.shutdown.value = .running)
    (hpast : s.signalsPast l = true) (hst : step config s l = some s') : ¬LocalSignal s' := by
  have hnot : .localClose ∉ s.cells.shutdown.values := fun hx => by
    have := hl.cells.signals.held_le hx
    rw [hrun] at this
    exact absurd this (by decide)
  have hpeer : s.cells.signalPeerClose.shutdown = ⟨.peerClose, s.cells.shutdown.values⟩ := by
    unfold Cells.signalPeerClose
    dsimp only
    exact Watch.sendIfModified_some (by rw [hrun])
  have habort : s.cells.signalAbort.shutdown = ⟨.abort, s.cells.shutdown.values⟩ := by
    unfold Cells.signalAbort
    dsimp only
    exact Watch.sendIfModified_some (by rw [hrun]; rfl)
  rw [LocalSignal, Watch.Held, Watch.values]
  rcases past_shutdown hpast hst with hsd | hsd
  · rw [hsd, hpeer]
    simp [hnot]
  · rw [hsd, habort]
    simp [hnot]

theorem signalTold_of_raised (hsup : Supervised s) (hft : s.writer.loc.failsTransport) (h : Noted s n)
    (hst : step config s l = some s') (hr : Raised s') : SignalTold (s, n) l := by
  intro ht _ hrun
  refine Bool.eq_false_iff.mpr fun hpast => ?_
  obtain ⟨e, he, hb⟩ := (told_step hsup hft h hst).mp (told_kept ht)
  exact unraised_of_past hsup.lifecycle hrun hpast hst (hr e he hb)

/-! ## The exact conditions -/

/-- Reached without `abort`, with what the observer has noted on the way. -/
structure Observed (config : ConnectionConfig) (sn : St × CloseNote) : Prop where
  run : Lts.Reachable (observedStep config) (start config, .none) sn
  noted : Noted sn.1 sn.2

theorem observed_start (config : ConnectionConfig) : Observed config (start config, .none) :=
  ⟨.start, noted_start config⟩

section Runs

variable {ls : List Label} {sn tn : St × CloseNote} {P : St → CloseNote → Prop}
  {ok : St × CloseNote → Label → Prop}

theorem Observed.reachable (h : Observed config sn) : Reachable config sn.1 := h.run.observed

theorem Observed.next (h : Observed config sn) (hno : l.abandons = false)
    (hst : observedStep config sn l = some tn) : Observed config tn := by
  have hs := h.reachable
  refine ⟨h.run.next hst, ?_⟩
  obtain ⟨hst, hnote⟩ := Lts.observe_eq_some hst
  rw [hnote]
  exact noted_step (supervised_reachable hs) (failsTransport_reachable hs) h.noted hno hst

theorem observed_run (hno : ∀ l ∈ ls, l.abandons = false)
    (h : Lts.run (observedStep config) (start config, .none) ls = some sn) : Observed config sn :=
  (Lts.path_of_labels h hno).invariant (fun _ _ _ hs hl hst => hs.next hl hst) (observed_start config)

/-- A property of states that holds of every run exactly if each step meets a condition. -/
theorem exact_of_steps (h : Lts.run (observedStep config) (start config, .none) ls = some sn)
    (hno : ∀ l ∈ ls, l.abandons = false) (hstart : P (start config) .none)
    (hstep : ∀ {s n l s'}, Reachable config s → Noted s n → P s n → step config s l = some s' →
      (P s' (noteClose n s l) ↔ ok (s, n) l)) :
    (∀ as tn, as <+: ls → Lts.run (observedStep config) (start config, .none) as = some tn → P tn.1 tn.2) ↔
      Lts.Path (observedStep config) ok (start config, .none) ls sn := by
  constructor
  · intro hall
    refine Lts.path_of_initial h fun as l t t' hp hr hst => ?_
    have hpre : as <+: ls := (List.prefix_append as [l]).trans hp
    have ht := observed_run (fun l hl => hno l (hpre.subset hl)) hr
    have hr' : Lts.run (observedStep config) (start config, .none) (as ++ [l]) = some t' := by
      rw [Lts.run_append, hr, Option.bind_some, Lts.run_cons, hst]; rfl
    have ht' := hall _ t' hp hr'
    obtain ⟨hst, hnote⟩ := Lts.observe_eq_some hst
    rw [hnote] at ht'
    exact (hstep ht.reachable ht.noted (hall as t hpre hr) hst).mp ht'
  · intro hpath as tn hp hr
    have hpath := (hpath.restrict hno).initial hp hr
    refine (hpath.invariant (P := fun tn => Observed config tn ∧ P tn.1 tn.2) ?_
      ⟨observed_start config, hstart⟩).2
    rintro tn l un ⟨ht, hP⟩ hok hst
    refine ⟨ht.next hok.2 hst, ?_⟩
    obtain ⟨hst, hnote⟩ := Lts.observe_eq_some hst
    rw [hnote]
    exact (hstep ht.reachable ht.noted hP hst).mpr hok.1

end Runs

/-- **`initiated_by_local` tells the truth along a run exactly if the reader never publishes what it has
loaded from a flag that is ahead of the state**, and the close it tells of is signalled as a local one
exactly if, moreover, no task signals before `begin_close` does. -/
theorem initiator_truthful_iff (config : ConnectionConfig) (ls : List Label) (sn : St × CloseNote)
    (h : Lts.run (observedStep config) (start config, .none) ls = some sn)
    (hno : ∀ l ∈ ls, l.abandons = false) :
    ((∀ as tn, as <+: ls → Lts.run (observedStep config) (start config, .none) as = some tn →
        Truthful tn.1 tn.2) ↔
      Lts.Path (observedStep config) FlagTold (start config, .none) ls sn) ∧
    ((∀ as tn, as <+: ls → Lts.run (observedStep config) (start config, .none) as = some tn →
        Truthful tn.1 tn.2 ∧ Raised tn.1) ↔
      Lts.Path (observedStep config) (fun sn l => FlagTold sn l ∧ SignalTold sn l)
        (start config, .none) ls sn) := by
  have htruthful : Truthful (start config) .none := ⟨nofun, nofun, nofun⟩
  have hraised : Raised (start config) := by rintro e ⟨⟩
  constructor
  · refine exact_of_steps h hno htruthful fun {s n l s'} hs hn ht hst => ?_
    have hsup := supervised_reachable hs
    exact ⟨flagTold_of_truthful hsup.lifecycle hn hst,
      fun hok => truthful_step hsup (failsTransport_reachable hs) hn ht hok hst⟩
  · refine exact_of_steps (P := fun s n => Truthful s n ∧ Raised s) h hno ⟨htruthful, hraised⟩
      fun {s n l s'} hs hn ht hst => ?_
    have hsup := supervised_reachable hs
    have hft := failsTransport_reachable hs
    constructor
    · rintro ⟨ht', hr'⟩
      exact ⟨flagTold_of_truthful hsup.lifecycle hn hst ht', signalTold_of_raised hsup hft hn hst hr'⟩
    · rintro ⟨hflag, hsig⟩
      exact ⟨truthful_step hsup hft hn ht.1 hflag hst, raised_step hsup hft hn ht.2 hflag hsig hst⟩

/-- `close()` has swapped the flag and not yet committed the close when the peer's Close frame comes in:
the reader reports a local close, and `begin_close` finds that it has not started one. -/
def overtakenRun : List Label :=
  [.callClose, .close 0 .next, .close 0 .next, .close 0 .next, .reader .next, .reader .next,
    .reader (.item (some (.ok (.close (some ⟨1000, ""⟩))))), .reader .next, .reader .next, .reader .next,
    .close 0 .next]

theorem initiator_untruthful :
    (Lts.run (observedStep .tiny) (start .tiny, .none) overtakenRun).isSome ∧
      (Lts.after (observedStep .tiny) (start .tiny, .none) overtakenRun).1.cells.state.values =
        [.peerClosed (.closedOk ⟨some 1000, true, ""⟩), .opened] ∧
      (Lts.after (observedStep .tiny) (start .tiny, .none) overtakenRun).1.closes = [.earlyReturn] ∧
      ¬Truthful (Lts.after (observedStep .tiny) (start .tiny, .none) overtakenRun).1
        (Lts.after (observedStep .tiny) (start .tiny, .none) overtakenRun).2 :=
  ⟨rfl, rfl, rfl, fun h => absurd (h.begun _ rfl rfl) (by unfold Watch.Held; decide)⟩

/-- `close()` has committed the close and signalled it when the peer's Close frame comes in. -/
def committedRun : List Label :=
  [.callClose, .close 0 .next, .close 0 .next, .close 0 .next, .close 0 .next, .close 0 .next, .reader .next,
    .reader .next, .reader (.item (some (.ok (.close (some ⟨1000, ""⟩))))), .reader .next, .reader .next,
    .reader .next]

theorem initiator_truthful_iff_committed :
    ((∀ as tn, as <+: committedRun →
        Lts.run (observedStep .tiny) (start .tiny, .none) as = some tn → Truthful tn.1 tn.2) ↔
      Lts.Path (observedStep .tiny) FlagTold (start .tiny, .none) committedRun
        (Lts.after (observedStep .tiny) (start .tiny, .none) committedRun)) ∧
    ((∀ as tn, as <+: committedRun →
        Lts.run (observedStep .tiny) (start .tiny, .none) as = some tn → Truthful tn.1 tn.2 ∧ Raised tn.1) ↔
      Lts.Path (observedStep .tiny) (fun sn l => FlagTold sn l ∧ SignalTold sn l)
        (start .tiny, .none) committedRun
        (Lts.after (observedStep .tiny) (start .tiny, .none) committedRun)) :=
  initiator_truthful_iff .tiny committedRun _ (Lts.run_after rfl) (by decide)

end FogWS
