import FogWS.Delivery
/-!
# How far the tasks run past the shutdown signal

The signal is a watch channel, and both tasks look at it in a `select!` beside other work: what they were
already about to take when it changed may still be taken. It is one item for each task at most. The writer
passes one more message to the sink if it was waiting for its next event (driver.rs:604) or had taken one;
the reader queues one more if it was waiting for permits or for a slot (driver.rs:547, :567).

| here | there |
| --- | --- |
| `WriterLoc.overrun` | the writer has polled `shutdown.changed()`, or holds a command |
| `ReaderLoc.overrun` | the reader has read the signal as `Running` for the message it holds |
-/
namespace FogWS

/-- The messages the writer may pass to the sink before it looks at the signal again. -/
def WriterLoc.overrun : WriterLoc → Nat
  | .events | .sendStart _ => 1
  | _ => 0

/-- The messages the reader may queue before it looks at the signal again. -/
def ReaderLoc.overrun : ReaderLoc → Nat
  | .acquire _ | .send _ _ => 1
  | _ => 0

/-- Messages passed to the sink, or about to be without another look at the signal. -/
def St.committed (s : St) : Nat := s.hist.passed.length + s.writer.loc.overrun

/-- Messages queued, or about to be. -/
def St.admitted (s : St) : Nat := s.delivered.length + s.reader.loc.overrun

variable {config : ConnectionConfig} {s s' : St} {l : Label}

theorem ReaderLoc.overrun_conclude (t : DriverError) : (ReaderLoc.conclude t).overrun = 0 := by
  unfold ReaderLoc.conclude
  split <;> rfl

/-- A writer that has not seen the signal change sees it before it waits for another event. -/
theorem writerStep_committed {a : WriterAct} (hw : s.writer.Ok s.cells)
    (hsig : s.cells.shutdown.value ≠ .running) (h : writerStep s s.writer.loc a = some s') :
    s'.committed ≤ s.committed := by
  have hok := hw.2
  simp only [St.committed]
  generalize hloc : s.writer.loc = loc at h hok
  cases writerStep_rule h with
  | select hseen => exact absurd (hok (by have := hw.1; omega)) hsig
  | running hrun => exact absurd hrun hsig
  | sendStart => simp [St.writerAt, WriterLoc.overrun]
  | takeCommand => simp [St.writerAt, WriterLoc.overrun]
  | kill => simp [dropWriter, WriterLoc.overrun]
  | _ => simp [St.writerAt, writerChanged, dropWriter, WriterLoc.overrun]

/-- A reader that takes another message discards it. -/
theorem readerStep_admitted {a : ReaderAct} (hsig : s.cells.shutdown.value ≠ .running)
    (h : readerStep s s.reader.loc a = some s') : s'.admitted ≤ s.admitted := by
  have f := readerStep_frame h
  have hdel : s'.inbound.channel = s.inbound.channel → s'.delivered = s.delivered := fun hc => by
    simp only [St.delivered, St.hand, f.receives, f.returned, hc]
  simp only [St.admitted]
  generalize hloc : s.reader.loc = loc at h
  cases readerStep_rule h with
  | queue _ hrun => exact absurd hrun hsig
  | acquire => rw [hdel rfl]; exact Nat.le_refl _
  | send m permit channel hsend =>
    obtain ⟨-, -, rfl⟩ := Mpsc.trySend_ok hsend
    simp [St.delivered, St.hand, St.readerAt, ReaderLoc.overrun]
    omega
  | errTaken | ended => rw [hdel rfl]; simp only [St.readerAt, ReaderLoc.overrun_conclude]; omega
  | kill => rw [hdel rfl]; exact Nat.le_add_right _ _
  | _ => rw [hdel rfl]; simp [St.readerAt, dropReader, ReaderLoc.overrun]

/-- **Past the signal, nothing is added to what the tasks have committed themselves to.** -/
theorem committed_step (hl : Lifecycle s) (hd : Delivery s) (hsig : s.cells.shutdown.value ≠ .running)
    (hst : step config s l = some s') : s'.committed ≤ s.committed ∧ s'.admitted ≤ s.admitted := by
  have hwr : s'.writer = s.writer → s'.hist.passed = s.hist.passed → s'.committed ≤ s.committed :=
    fun hw hp => by simp only [St.committed, hw, hp, Nat.le_refl]
  have hrd : s'.reader = s.reader → s'.delivered = s.delivered → s'.admitted ≤ s.admitted :=
    fun hr hd => by simp only [St.admitted, hr, hd, Nat.le_refl]
  cases step_move hst with
  | reader f hst => exact ⟨hwr f.writer f.passed, readerStep_admitted hsig hst⟩
  | writer f hst =>
    refine ⟨writerStep_committed hl.writer hsig hst, hrd f.reader ?_⟩
    simp only [St.delivered, St.hand, f.receives, f.inbound, f.returned]
  | control f =>
    refine ⟨hwr f.writer (by rw [f.hist]), hrd f.reader ?_⟩
    simp only [St.delivered, St.hand, f.receives, f.inbound, f.hist]
  | send f =>
    have hret : s'.hist.returned = s.hist.returned := by rw [f.hist]
    refine ⟨hwr f.writer (by rw [f.hist]), hrd f.reader ?_⟩
    simp only [St.delivered, St.hand, f.receives, f.inbound, hret]
  | receive f =>
    obtain ⟨loc, loc', hloc, m⟩ := receive_move hd.slot hst
    exact ⟨hwr f.writer (by rw [f.hist]), hrd f.reader (receive_delivered hd.slot hloc m).1⟩
  | callReceive =>
    refine ⟨hwr rfl rfl, hrd rfl ?_⟩
    simp [St.delivered, St.hand, ReceiveLoc.hand]
  | callAdmit | dropDriver => exact ⟨hwr rfl rfl, hrd rfl rfl⟩
  | dropFields =>
    refine ⟨hwr rfl rfl, ?_⟩
    simp only [St.admitted, St.delivered, St.hand, dropFields, Mpsc.dropReceiver, List.map_nil,
      List.append_nil, List.length_append]
    omega

/-! ## The result -/

structure Overrun (s s' : St) : Prop where
  /-- One more message is written at most, and only one that the writer was already about to take. -/
  written : s'.hist.passed.length ≤ s.hist.passed.length + s.writer.loc.overrun
  /-- One more message is queued at most, and only the one the reader was already about to queue: all that
  is ever returned after this was there before, but for that one. -/
  queued : s'.delivered.length ≤ s.delivered.length + s.reader.loc.overrun
  bounded : s.writer.loc.overrun ≤ 1 ∧ s.reader.loc.overrun ≤ 1

/-- **Each task runs past the shutdown signal by one message at most.** -/
theorem overrun_bounded (h : Reachable config s) (hsig : s.cells.shutdown.value ≠ .running)
    (ls : List Label) (hrun : Lts.run (step config) s ls = some s') : Overrun s s' := by
  have hle : s'.committed ≤ s.committed ∧ s'.admitted ≤ s.admitted :=
    (Lts.path_of_run hrun).relation
      (P := fun s => Lifecycle s ∧ Delivery s ∧ s.cells.shutdown.value ≠ .running)
      (R := fun s s' => s'.committed ≤ s.committed ∧ s'.admitted ≤ s.admitted)
      (fun _ => ⟨Nat.le_refl _, Nat.le_refl _⟩)
      (fun _ _ _ hab hbc => ⟨Nat.le_trans hbc.1 hab.1, Nat.le_trans hbc.2 hab.2⟩)
      (fun a l b ⟨hl, hd, hsig⟩ _ hst => by
        obtain ⟨hl', he⟩ := lifecycle_step hl hst
        refine ⟨⟨hl', delivery_step hl hd hst, fun hrun => hsig ?_⟩, committed_step hl hd hsig hst⟩
        have := he.signal.rank_le
        rw [hrun] at this
        exact ShutdownSignal.rank_eq_zero.mp (Nat.le_zero.mp this))
      ⟨lifecycle_reachable h, delivery_reachable h, hsig⟩
  refine ⟨Nat.le_trans (Nat.le_add_right _ _) hle.1, Nat.le_trans (Nat.le_add_right _ _) hle.2, ?_, ?_⟩
  · cases s.writer.loc <;> simp [WriterLoc.overrun]
  · cases s.reader.loc <;> simp [ReaderLoc.overrun]

/-- A command is queued while the writer waits for its next event, and a close signals. -/
def signalledRun : List Label :=
  [.writer .next, .writer .next, .callAdmit 1, .send 0 .next, .send 0 .next, .send 0 .next,
    .send 0 (.handOver (.binary [7])), .callClose, .close 0 .next, .close 0 .next, .close 0 .next,
    .close 0 .next, .close 0 .next]

/-- The writer takes the command first. -/
def overtakingRun : List Label := [.writer .outbound, .writer .next]

theorem overrun_bounded_overtaking :
    Overrun (Lts.after (step .tiny) (start .tiny) signalledRun)
        (Lts.after (step .tiny) (start .tiny) (signalledRun ++ overtakingRun)) ∧
      (Lts.after (step .tiny) (start .tiny) signalledRun).hist.passed.length = 0 ∧
      (Lts.after (step .tiny) (start .tiny) (signalledRun ++ overtakingRun)).hist.passed.length = 1 :=
  ⟨overrun_bounded (Lts.reachable_after rfl) (by rintro ⟨⟩) overtakingRun rfl, rfl, rfl⟩

end FogWS
