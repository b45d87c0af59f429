import FogWS.Outcome
import FogWS.Responsible
/-!
# Who decides the outcome after the peer's Close

Between taking the peer's Close frame (driver.rs:476) and publishing the outcome it stands for
(`publish_peer_closed`, driver.rs:519), the reader has told nobody. In that window the writer may
fail, or a watchdog may expire, and close the state with its own error: `publish_writer_failure` and
`publish_close_timeout` keep a peer outcome only once it is published. `NotPreempted` says that this
does not happen; it is the exact condition for the peer's frame to decide.
-/
namespace FogWS

/-- The reader has taken a Close frame, or the end of the stream, and not yet published its outcome. -/
def ReaderLoc.deciding : ReaderLoc → Bool
  | .closeTaken _ | .closeMark _ _ | .finish _ => true
  | _ => false

/-- The next step of this label is `publish_writer_failure` or `publish_close_timeout`. -/
def St.publishesFailure (s : St) : Label → Bool
  | .writer .next =>
    match s.writer.loc with
    | .fail _ _ => true
    | _ => false
  | .watchdog i .next => s.watchdogs[i]? = some .expired
  | _ => false

/-- The reader took a Close frame while the state was not `Closed`. -/
def St.peerLive (s : St) : Bool := s.hist.peerClose.any (·.live)

/-- No failure is published between the reader's taking the frame and its publication. -/
def NotPreempted (s : St) (l : Label) : Prop :=
  s.peerLive = true → s.reader.loc.deciding = true → s.cells.state.value.isTerminal = false →
    s.publishesFailure l = false

/-- `abort()`, or the drop of the driver, which calls it. -/
def Label.abandons : Label → Bool
  | .callAbort | .dropDriver => true
  | _ => false

/-- If the connection has ended after a live Close frame, the frame is the outcome. -/
def PeerDecides (s : St) : Prop :=
  ∀ p e, s.hist.peerClose = some p → p.live = true → s.cells.state.value = .closed e →
    ∃ b, p.initiatedByLocal = some b ∧ e = classifyClose p.frame b

/-- The reader is on its way to publish what `p` stands for. -/
def ReaderLoc.Carries (p : PeerClose) : ReaderLoc → Prop
  | .closeTaken frame => frame = p.frame ∧ p.initiatedByLocal = none
  | .closeMark frame b => frame = p.frame ∧ p.initiatedByLocal = some b
  | .finish o => ∃ b, p.initiatedByLocal = some b ∧ o = classifyClose p.frame b
  | _ => False

/-- The reader is past `publish_peer_closed`. -/
def ReaderLoc.published : ReaderLoc → Bool
  | .finishSignal _ | .finishSubscribe _ | .finishWait _ _ | .finishExpired _ | .finishAbort | .leave
  | .returned | .finished => true
  | _ => false

/-- A live Close frame is on its way to be the outcome, or it is. -/
def Taken (s : St) (p : PeerClose) : Prop :=
  s.reader.loc.Carries p ∧ s.cells.state.value.rank < 3 ∨
    ∃ b, p.initiatedByLocal = some b ∧ s.reader.loc.published = true ∧
      (s.cells.state.value = .peerClosed (classifyClose p.frame b) ∨
        s.cells.state.value = .closed (classifyClose p.frame b))

/-- The invariant of the runs in which the peer is not preempted. -/
structure Decided (s : St) : Prop where
  aborts : s.aborts = []
  taken : ∀ p, s.hist.peerClose = some p → p.live = true → Taken s p

theorem Decided.peerDecides (h : Decided s) : PeerDecides s := by
  intro p e hp hlive hcl
  rcases h.taken p hp hlive with ⟨-, hlt⟩ | ⟨b, hb, -, ho | ho⟩
  · rw [hcl] at hlt; exact absurd hlt (Nat.lt_irrefl 3)
  · rw [hcl] at ho; cases ho
  · rw [hcl] at ho; cases ho; exact ⟨b, hb, rfl⟩

variable {config : ConnectionConfig} {s s' : St} {l : Label}

theorem decided_start (config : ConnectionConfig) : Decided (start config) := ⟨rfl, nofun⟩

/-! ## The steps of the reader -/

theorem ReaderLoc.Carries.deciding {p : PeerClose} {loc : ReaderLoc} (h : loc.Carries p) :
    loc.deciding = true := by
  cases loc <;> first | rfl | cases h

theorem ReaderLoc.peerOutcome_of_deciding {loc : ReaderLoc} (h : loc.deciding = true) :
    loc.peerOutcome = none := by
  cases loc <;> first | rfl | cases h

/-- While the reader decides, no outcome is published. -/
theorem PeerKept.rank_lt (hk : PeerKept s) (hd : s.reader.loc.deciding = true)
    (h : s.cells.state.value.rank < 3) : s.cells.state.value.rank < 2 := by
  cases hv : s.cells.state.value with
  | peerClosed o =>
    have := hk o hv
    rw [ReaderLoc.peerOutcome_of_deciding hd] at this; cases this
  | closed e => rw [hv] at h; exact absurd h (Nat.lt_irrefl 3)
  | _ => simp [DriverState.rank]

theorem readerStep_published {loc : ReaderLoc} {a : ReaderAct} (hloc : loc.published = true)
    (h : readerStep s loc a = some s') : s'.reader.loc.published = true ∧ s'.hist = s.hist := by
  cases readerStep_rule h with
  | finishSignal | finishSubscribe | finishOver | finishWait | finishTimer | finishExpired | finishAbort
  | leave | returned | kill => exact ⟨rfl, rfl⟩
  | _ => cases hloc

/-- The reader carries the frame to its publication. -/
theorem readerStep_carries {p : PeerClose} {loc : ReaderLoc} {a : ReaderAct} (hloc : loc.Carries p)
    (hp : s.hist.peerClose = some p) (hlt : s.cells.state.value.rank < 2)
    (h : readerStep s loc a = some s') :
    ∃ p', s'.hist.peerClose = some p' ∧ p'.live = p.live ∧ Taken s' p' := by
  cases readerStep_rule h with
  | closeTaken f =>
    refine ⟨{ p with initiatedByLocal := some s.cells.closing }, ?_, rfl, ?_⟩
    · simp only [hp, Option.map_some]
    · exact .inl ⟨⟨hloc.1, rfl⟩, Nat.lt_succ_of_lt hlt⟩
  | closeMark f b =>
    exact ⟨p, hp, rfl, .inl ⟨⟨b, hloc.2, by rw [hloc.1]⟩, Nat.lt_succ_of_lt hlt⟩⟩
  | finish o =>
    obtain ⟨b, hb, rfl⟩ := hloc
    refine ⟨p, hp, rfl, .inr ⟨b, hb, rfl, .inl ?_⟩⟩
    exact (Cells.publishPeerClosed_value _ _).trans (if_pos hlt)
  | kill haw =>
    -- a reader with the frame in hand awaits nothing
    cases loc with
    | closeTaken | closeMark | finish => cases haw
    | _ => cases hloc
  | _ => cases hloc

/-- A Close frame is only taken from the stream, and only once the state is asked. -/
theorem readerStep_takes {loc : ReaderLoc} {a : ReaderAct} (h : readerStep s loc a = some s') :
    s'.peerLive = s.peerLive ∨ loc = .select ∧ ∃ frame,
      s'.hist.peerClose = some ⟨frame, !s.cells.state.value.isTerminal, none⟩ ∧
        s'.reader.loc = .closeTaken frame ∧ s'.cells = s.cells := by
  cases readerStep_rule h with
  | closeFrame frame => exact .inr ⟨rfl, frame, rfl, rfl, rfl⟩
  | closeTaken => exact .inl (by cases hp : s.hist.peerClose <;> simp [St.peerLive, hp])
  | _ => exact .inl rfl

/-! ## The steps of everybody else -/

/-- Only the reader changes what is known of the peer's Close frame. -/
theorem step_peerClose (hr : ∀ a, l ≠ .reader a) (hst : step config s l = some s') :
    s'.hist.peerClose = s.hist.peerClose := by
  cases step_move hst with
  | reader => exact absurd rfl (hr _)
  | writer f => exact f.peerClose
  | control f | send f | receive f => rw [f.hist]
  | _ => rfl

/-- Without `abort()` there is no abort. -/
theorem step_aborts (hab : s.aborts = []) (hl : l.abandons = false) (hst : step config s l = some s') :
    s'.aborts = [] := by
  cases step_move hst with
  | reader f | writer f | send f | receive f => rw [f.aborts]; exact hab
  | control _ m =>
    cases m with
    | watchdog _ _ _ hsame | close _ _ hsame => rw [hsame]; exact hab
    | abort hloc => rw [hab] at hloc; cases hloc
    | callClose => exact hab
    | callAbort => cases hl
  | dropDriver => cases hl
  | callAdmit | callReceive | dropFields => exact hab

/-- The writer closes a state that has no peer outcome only with its own failure. -/
theorem writerStep_open {loc : WriterLoc} {a : WriterAct} (hloc : s.writer.loc = loc)
    (hok : loc.Ok s.cells s.writer.seen) (hlt : s.cells.state.value.rank < 2)
    (hpf : s.publishesFailure (.writer a) = false) (h : writerStep s loc a = some s') :
    s'.cells.state.value.rank < 3 := by
  cases writerStep_rule h with
  | closePublish =>
    -- a peer outcome or a closed state has been read
    rcases hok with hs | hs
    · rw [hs] at hlt; exact absurd hlt (Nat.lt_irrefl 2)
    · omega
  | fail => simp [St.publishesFailure, hloc] at hpf
  | _ => exact Nat.lt_succ_of_lt hlt

/-- While the reader decides, only a published failure or an `abort` closes the state. -/
theorem step_open (hl : Lifecycle s) (hab : s.aborts = []) (hr : ∀ a, l ≠ .reader a)
    (hlt : s.cells.state.value.rank < 2) (hpf : s.publishesFailure l = false)
    (hst : step config s l = some s') : s'.cells.state.value.rank < 3 := by
  have hlt3 : s.cells.state.value.rank < 3 := Nat.lt_succ_of_lt hlt
  cases step_move hst with
  | reader => exact absurd rfl (hr _)
  | writer _ hst => exact writerStep_open rfl hl.writer.2 hlt hpf hst
  | control _ m =>
    cases m with
    | watchdog hloc hst =>
      cases watchdogStep_rule hst with
      | expired => simp [St.publishesFailure, hloc] at hpf
      | _ => exact hlt3
    | close _ hst =>
      rcases closeStep_state hst with hs | ⟨-, hs⟩
      · rw [hs]; exact hlt3
      · rw [hs]; decide
    | abort hloc => rw [hab] at hloc; cases hloc
    | callClose | callAbort => exact hlt3
  | send f | receive f => rw [f.cells]; exact hlt3
  | callAdmit | callReceive | dropDriver | dropFields => exact hlt3

/-! ## The peer is not preempted -/

theorem decided_step (hl : Lifecycle s) (hk : PeerKept s) (h : Decided s)
    (hok : NotPreempted s l ∧ l.abandons = false) (hst : step config s l = some s') : Decided s' := by
  refine ⟨step_aborts h.aborts hok.2 hst, fun p' hp' hlive' => ?_⟩
  have hlive₀ : ∀ {p}, s.hist.peerClose = some p → p.live = true → s.peerLive = true := fun hp hv => by
    simp [St.peerLive, hp, hv]
  by_cases hr : ∃ a, l = .reader a
  · obtain ⟨a, rfl⟩ := hr
    rcases readerStep_takes hst with hsame | ⟨-, frame, htaken, hloc, hcells⟩
    · -- the frame was there before the step
      have hlive : s.peerLive = true := by rw [← hsame]; simp [St.peerLive, hp', hlive']
      obtain ⟨p, hp, hv⟩ := (Option.any_eq_true _ _).mp hlive
      rcases h.taken p hp hv with ⟨hcar, hlt⟩ | ⟨b, hb, hpub, hs⟩
      · obtain ⟨p₁, hp₁, -, ht⟩ := readerStep_carries hcar hp (hk.rank_lt hcar.deciding hlt) hst
        obtain rfl : p₁ = p' := by simpa [hp'] using hp₁.symm
        exact ht
      · obtain ⟨hpub', hhist⟩ := readerStep_published hpub hst
        obtain rfl : p = p' := by simpa [hhist, hp] using hp'
        exact .inr ⟨b, hb, hpub', peer_outcome_step hl hk hs rfl hst⟩
    · obtain rfl := Option.some.inj (htaken.symm.trans hp')
      refine .inl ⟨by rw [hloc]; exact ⟨rfl, rfl⟩, ?_⟩
      rw [hcells]
      exact DriverState.rank_lt_of_not_terminal (by simpa using hlive')
  · have hr' : ∀ a, l ≠ .reader a := fun a ha => hr ⟨a, ha⟩
    rw [step_peerClose hr' hst] at hp'
    unfold Taken
    rw [step_reader_eq hr' hst]
    rcases h.taken p' hp' hlive' with ⟨hcar, hlt⟩ | ⟨b, hb, hpub, hs⟩
    · have hopen : s.cells.state.value.isTerminal = false := by
        cases ht : s.cells.state.value.isTerminal with
        | false => rfl
        | true => exact absurd (DriverState.isTerminal_iff.mp ht) (by omega)
      have hpf := hok.1 (hlive₀ hp' hlive') hcar.deciding hopen
      exact .inl ⟨hcar, step_open hl h.aborts hr' (hk.rank_lt hcar.deciding hlt) hpf hst⟩
    · refine .inr ⟨b, hb, hpub, peer_outcome_step hl hk hs ?_ hst⟩
      cases l <;> first | rfl | simp [St.abortPublishes, h.aborts]

/-! ## The peer is preempted -/

/-- The writer's failures are transport errors. -/
def WriterLoc.failsTransport : WriterLoc → Prop
  | .fail e _ => ∃ m, e = .transport m
  | _ => True

theorem writerStep_failsTransport {loc : WriterLoc} {a : WriterAct} (h : writerStep s loc a = some s') :
    s'.writer.loc.failsTransport := by
  cases writerStep_rule h with
  | readerGone | flushFailed | sendFailed | closeSendFailed | closeFlushFailed => exact ⟨_, rfl⟩
  | _ => trivial

theorem failsTransport_reachable (h : Reachable config s) : s.writer.loc.failsTransport := by
  refine h.invariant (P := fun s => s.writer.loc.failsTransport) trivial fun s l t hs hst => ?_
  by_cases hw : ∃ a, l = .writer a
  · obtain ⟨a, rfl⟩ := hw
    exact writerStep_failsTransport hst
  · rw [step_writer_eq (fun a ha => hw ⟨a, ha⟩) hst]; exact hs

/-- Another outcome has been published, and the frame is lost. -/
structure Preempted (s : St) : Prop where
  closed : ∃ m, s.cells.state.value = .closed (.transport m)
  leaving : s.reader.loc.leaving = true
  live : s.peerLive = true

theorem classifyClose_ne_transport (f : Option CloseFrame) (b : Bool) (m : String) :
    classifyClose f b ≠ .transport m := by
  unfold classifyClose
  split
  · nofun
  · dsimp only
    split <;> nofun

theorem Preempted.not_decides (h : Preempted s) : ¬PeerDecides s := fun hd => by
  obtain ⟨m, hm⟩ := h.closed
  obtain ⟨p, hp, hlive⟩ := (Option.any_eq_true _ _).mp h.live
  obtain ⟨b, -, he⟩ := hd p _ hp hlive hm
  exact classifyClose_ne_transport _ _ _ he.symm

theorem preempted_step (hl : Lifecycle s) (h : Preempted s) (hst : step config s l = some s') :
    Preempted s' := by
  obtain ⟨m, hm⟩ := h.closed
  have hclosed : ∃ m, s'.cells.state.value = .closed (.transport m) :=
    ⟨m, (lifecycle_step hl hst).2.closed hm⟩
  by_cases hr : ∃ a, l = .reader a
  · obtain ⟨a, rfl⟩ := hr
    refine ⟨hclosed, (readerStep_duty hst).leaving h.leaving, ?_⟩
    rcases readerStep_takes hst with hsame | ⟨hsel, -⟩
    · rw [hsame]; exact h.live
    · have hlv := h.leaving
      rw [hsel] at hlv; cases hlv
  · have hr' : ∀ a, l ≠ .reader a := fun a ha => hr ⟨a, ha⟩
    refine ⟨hclosed, by rw [step_reader_eq hr' hst]; exact h.leaving, ?_⟩
    rw [St.peerLive, step_peerClose hr' hst]; exact h.live

theorem ReaderLoc.leaving_of_deciding {loc : ReaderLoc} (h : loc.deciding = true) :
    loc.leaving = true := by
  cases loc <;> first | rfl | cases h

/-- A failure published on a state without outcome closes it with its own error. -/
theorem writerFailure_transport {c : Cells} (m : String) (hlt : c.state.value.rank < 2) :
    (c.publishWriterFailure (.transport m)).state.value = .closed (.transport m) := by
  rw [Cells.publishWriterFailure_value]
  cases hv : c.state.value with
  | opened | closing => rfl
  | peerClosed | closed => rw [hv] at hlt; simp [DriverState.rank] at hlt

/-- **A failure published while the reader decides takes the place of the peer's outcome.** -/
theorem preempted_of_failure (hft : s.writer.loc.failsTransport) (hk : PeerKept s)
    (hlive : s.peerLive = true) (hd : s.reader.loc.deciding = true)
    (hopen : s.cells.state.value.isTerminal = false) (hpf : s.publishesFailure l = true)
    (hst : step config s l = some s') : Preempted s' := by
  have hlt : s.cells.state.value.rank < 2 :=
    hk.rank_lt hd (DriverState.rank_lt_of_not_terminal (by rw [hopen]; nofun))
  have hlv := ReaderLoc.leaving_of_deciding hd
  cases l with
  | writer a =>
    cases a with
    | next =>
      cases hw : s.writer.loc with
      | fail e c =>
        rw [hw] at hft
        obtain ⟨m, rfl⟩ := hft
        simp only [step, hw, writerStep, Option.some.injEq] at hst
        subst hst
        exact ⟨⟨m, writerFailure_transport m hlt⟩, hlv, hlive⟩
      | _ => simp [St.publishesFailure, hw] at hpf
    | _ => cases hpf
  | watchdog i a =>
    cases a with
    | next =>
      have hw : s.watchdogs[i]? = some .expired := by simpa [St.publishesFailure] using hpf
      simp only [step, hw, Option.bind_some, watchdogStep, Option.some.injEq] at hst
      subst hst
      exact ⟨⟨_, writerFailure_transport _ hlt⟩, hlv, hlive⟩
    | timer => cases hpf
  | _ => cases hpf

/-! ## The exact condition -/

/-- **Without `abort`, the peer's Close frame decides exactly if no failure is published between the
reader's taking it and its publication.** -/
theorem peer_decides_iff (config : ConnectionConfig) (ls : List Label) (s : St)
    (h : Lts.run (step config) (start config) ls = some s) (hno : ∀ l ∈ ls, l.abandons = false) :
    PeerDecides s ↔ Lts.Path (step config) NotPreempted (start config) ls s := by
  constructor
  · intro hdec
    refine Lts.path_of_initial h fun as l t t' hp hr hst hlive hd hopen => ?_
    have ht : Reachable config t := ⟨as, hr⟩
    cases hpf : t.publishesFailure l with
    | false => rfl
    | true =>
      have hpre := preempted_of_failure (failsTransport_reachable ht) (peerKept_reachable ht) hlive hd
        hopen hpf hst
      have hr' : Lts.run (step config) (start config) (as ++ [l]) = some t' := by
        rw [Lts.run_append, hr, Option.bind_some, Lts.run_cons, hst]; rfl
      obtain ⟨bs, hbs⟩ := Lts.run_rest h hp hr'
      have hend := (Lts.path_of_run hbs).invariant (P := fun s => Lifecycle s ∧ Preempted s)
        (fun _ _ _ ⟨hl, hx⟩ _ hst => ⟨(lifecycle_step hl hst).1, preempted_step hl hx hst⟩)
        ⟨lifecycle_reachable (ht.next hst), hpre⟩
      exact absurd hdec hend.2.not_decides
  · intro hpath
    exact ((hpath.restrict hno).invariant (P := fun s => Lifecycle s ∧ PeerKept s ∧ Decided s)
      (fun _ _ _ ⟨hl, hk, hd⟩ hok hst =>
        ⟨(lifecycle_step hl hst).1, peerKept_step hl hk hst, decided_step hl hk hd hok hst⟩)
      ⟨lifecycle_start config, nofun, decided_start config⟩).2.2.peerDecides

/-- The writer is in a sink send when the reader takes a clean Close frame; the send fails, since the
connection is closing, and its error is published before the reader publishes the outcome. -/
def preemptedRun : List Label :=
  [.callAdmit 1, .send 0 .next, .send 0 .next, .send 0 .next, .send 0 (.handOver (.binary [7])),
    .writer .next, .writer .next, .writer .outbound, .writer .next, .reader .next, .reader .next,
    .reader (.item (some (.ok (.close (some ⟨1000, ""⟩))))), .writer (.sinkErr .connectionClosed),
    .reader .next, .writer .next, .reader .next, .reader .next]

theorem peer_preempted_writerFailure :
    Lts.run (step .tiny) (start .tiny) preemptedRun =
        some (Lts.after (step .tiny) (start .tiny) preemptedRun) ∧
      (∀ l ∈ preemptedRun, l.abandons = false) ∧
      ¬PeerDecides (Lts.after (step .tiny) (start .tiny) preemptedRun) :=
  ⟨Lts.run_after rfl, by decide, fun h => by
    obtain ⟨b, -, he⟩ := h _ _ rfl rfl rfl
    exact classifyClose_ne_transport _ _ _ he.symm⟩

/-- The same run, with the send failing only after the outcome is published. -/
def decidedRun : List Label :=
  [.callAdmit 1, .send 0 .next, .send 0 .next, .send 0 .next, .send 0 (.handOver (.binary [7])),
    .writer .next, .writer .next, .writer .outbound, .writer .next, .reader .next, .reader .next,
    .reader (.item (some (.ok (.close (some ⟨1000, ""⟩))))), .reader .next, .reader .next, .reader .next,
    .writer (.sinkErr .connectionClosed), .writer .next]

theorem peer_decides_iff_laterFailure :
    PeerDecides (Lts.after (step .tiny) (start .tiny) decidedRun) ↔
      Lts.Path (step .tiny) NotPreempted (start .tiny) decidedRun
        (Lts.after (step .tiny) (start .tiny) decidedRun) :=
  peer_decides_iff .tiny decidedRun _ (Lts.run_after rfl) (by decide)

end FogWS
