import FogWS.Rest
/-!
# What a dropped connection leaves behind

`Drop for ConnectionDriver` (driver.rs:409) only aborts: the tasks, what they hold and what is queued go on
their own. Whatever the connection was doing when its last handle went, nothing of it stays: both tasks and
every watchdog end, the channels are empty, and every permit is back in its semaphore.

| here | there |
| --- | --- |
| `Swept` | a channel whose last end is gone is empty |
| `Reclaimed` | the tasks are gone, and the budgets are whole |
-/
namespace FogWS

variable {config : ConnectionConfig} {s s' : St} {l : Label}

/-! ## Channels without an end -/

/-- Who closes a channel empties it: the writer the outbound channel, the driver the inbound one; and the
driver drops what was put into the outbound channel after the writer. -/
structure Swept (s : St) : Prop where
  closed : s.writer.loc.isDone = true → s.outbound.channel.closed = true
  outbound : s.driver = .dropped → s.outbound.channel.closed = true → s.outbound.channel.queue = []
  inbound : s.driver = .dropped → s.inbound.channel.closed = true ∧ s.inbound.channel.queue = []

theorem swept_start (config : ConnectionConfig) : Swept (start config) := ⟨nofun, nofun, nofun⟩

theorem Swept.of_eq (h : Swept s) (hw : s'.writer = s.writer) (ho : s'.outbound = s.outbound)
    (hi : s'.inbound = s.inbound) (hd : s'.driver = .dropped → s.driver = .dropped) : Swept s' :=
  ⟨by rw [hw, ho]; exact h.closed, fun hx => by rw [ho]; exact h.outbound (hd hx),
    fun hx => by rw [hi]; exact h.inbound (hd hx)⟩

/-- The reader queues nothing in a closed channel. -/
theorem readerStep_channel {loc : ReaderLoc} {a : ReaderAct} (h : readerStep s loc a = some s') :
    s'.inbound.channel = s.inbound.channel ∨ s.inbound.channel.closed = false := by
  cases readerStep_rule h with
  | send _ _ _ hsend => exact .inr (Mpsc.trySend_ok hsend).1
  | _ => exact .inl rfl

theorem swept_writer {a : WriterAct} (h : Swept s) (hst : writerStep s s.writer.loc a = some s') :
    Swept s' := by
  have f := writerStep_frame hst
  have m := writerStep_move hst
  have hin : s'.driver = .dropped → s'.inbound.channel.closed = true ∧ s'.inbound.channel.queue = [] := by
    rw [f.driver, f.inbound]; exact h.inbound
  generalize hloc : s.writer.loc = loc at m
  cases m with
  | take c channel hq hcl =>
    refine ⟨nofun, fun hd hclosed => ?_, hin⟩
    have hnil := h.outbound hd (hcl ▸ hclosed)
    rw [hq] at hnil; cases hnil
  | gone => exact ⟨fun _ => rfl, fun _ _ => rfl, hin⟩
  | quiet _ _ _ hout _ _ _ _ _ hdone =>
    exact ⟨by rw [hdone, hout, ← hloc]; exact h.closed, by rw [f.driver, hout]; exact h.outbound, hin⟩
  | _ => exact ⟨nofun, h.outbound, hin⟩

theorem swept_step (hret : Retired s) (h : Swept s) (hst : step config s l = some s') : Swept s' := by
  cases step_move hst with
  | reader f hst =>
    refine ⟨by rw [f.writer, f.outbound]; exact h.closed, by rw [f.driver, f.outbound]; exact h.outbound,
      fun hd => ?_⟩
    rw [f.driver] at hd
    rcases readerStep_channel hst with hc | hc
    · rw [hc]; exact h.inbound hd
    · rw [(h.inbound hd).1] at hc; cases hc
  | writer _ hst => exact swept_writer h hst
  | control f => exact h.of_eq f.writer f.outbound f.inbound (by rw [f.driver]; exact id)
  | send f hloc hst =>
    -- no call is left once the driver has been dropped
    have halive : s.driver = .alive := by
      by_contra hne
      rw [sendStep_over (hret.sends hne _ (List.mem_of_getElem? hloc))] at hst
      cases hst
    have hcl : s'.outbound.channel.closed = s.outbound.channel.closed := by
      rcases sendStep_move hst with ⟨m, -, -, rfl⟩ | ⟨loc', -, q⟩
      · rfl
      · exact q.closed
    have hne : s'.driver ≠ .dropped := by rw [f.driver, halive]; nofun
    exact ⟨by rw [f.writer, hcl]; exact h.closed, fun hd => absurd hd hne, fun hd => absurd hd hne⟩
  | receive f hloc hst =>
    have halive : s.driver = .alive := by
      by_contra hne
      rw [receiveStep_over (hret.receives hne _ (List.mem_of_getElem? hloc))] at hst
      cases hst
    have hne : s'.driver ≠ .dropped := by rw [f.driver, halive]; nofun
    exact ⟨by rw [f.writer, f.outbound]; exact h.closed, fun hd => absurd hd hne, fun hd => absurd hd hne⟩
  | callAdmit | callReceive => exact h.of_eq rfl rfl rfl id
  | dropDriver => exact h.of_eq rfl rfl rfl nofun
  | dropFields =>
    refine ⟨fun hd => ?_, fun _ hcl => ?_, fun _ => ⟨rfl, rfl⟩⟩
    · have hcl := h.closed hd
      simp only [dropFields, hcl, if_true]
      rfl
    · simp only [dropFields] at hcl ⊢
      split at hcl
      · rw [if_pos ‹_›]; rfl
      · exact absurd hcl ‹_›

theorem swept_reachable (h : Reachable config s) : Swept s :=
  (h.invariant (P := fun s => Retired s ∧ Swept s) ⟨retired_start config, swept_start config⟩
    fun _ _ _ hP hst => ⟨retired_step hP.1 hst, swept_step hP.1 hP.2 hst⟩).2

/-! ## The result -/

structure Reclaimed (config : ConnectionConfig) (s : St) : Prop where
  driver : s.driver = .dropped
  ended : Over s
  aborts : ∀ a ∈ s.aborts, a = .done
  sends : ∀ l ∈ s.sends, l.isOver = true
  receives : ∀ l ∈ s.receives, l.isOver = true
  /-- No message and no command is left, and every permit of both semaphores is free again. -/
  inbound : s.inbound.channel.queue = [] ∧ s.inbound.budget = config.maxBufferedBytes ∧
    s.inbound.channel.free = config.maxQueue
  outbound : s.outbound.channel.queue = [] ∧ s.outbound.budget = config.maxBufferedBytes ∧
    s.outbound.channel.free = config.maxQueue

theorem SendLoc.bytes_of_over {l : SendLoc} (h : l.isOver = true) : l.bytes = 0 ∧ l.slots = 0 := by
  cases l <;> first | exact ⟨rfl, rfl⟩ | cases h

theorem ReceiveLoc.bytes_of_over {l : ReceiveLoc} (h : l.isOver = true) : l.bytes = 0 := by
  cases l <;> first | rfl | cases h

/-- A dropped driver whose tasks have ended holds nothing. -/
theorem reclaimed_of_over (hr : Reachable config s) (hst : Stock config s) (hover : Over s)
    (hab : ∀ a ∈ s.aborts, a = .done) (hd : s.driver = .dropped) : Reclaimed config s := by
  have hret := retired_reachable hr
  have hsw := swept_reachable hr
  have hacc := account_reachable hr
  have hne : s.driver ≠ .alive := by rw [hd]; nofun
  have hin := (hsw.inbound hd).2
  have hout := hsw.outbound hd (hsw.closed (by rw [hover.writer]; rfl))
  have hheld : s.held = [] := by rw [St.held, hover.writer, hout]; rfl
  have hbytes := hst.bytes
  have hslots := hst.slots
  have hbytes' := hacc.bytes
  have hslots' := hacc.slots
  rw [hin, hover.reader, Pool.weigh_eq_zero fun x hx => ReceiveLoc.bytes_of_over (hret.receives hne x hx)]
    at hbytes
  rw [hheld, Pool.weigh_eq_zero fun x hx => (SendLoc.bytes_of_over (hret.sends hne x hx)).1] at hbytes'
  rw [Pool.weigh_eq_zero fun x hx => (SendLoc.bytes_of_over (hret.sends hne x hx)).2] at hslots'
  simp only [Mpsc.load, hin, hout, List.length_nil] at hslots hslots'
  exact ⟨hd, hover, hab, hret.sends hne, hret.receives hne, ⟨hin, hbytes, hslots⟩, hout, hbytes', hslots'⟩

/-- A handle that is gone does not come back. -/
theorem driver_gone (hne : s.driver ≠ .alive) (hst : step config s l = some s') : s'.driver ≠ .alive := by
  cases step_move hst with
  | reader f | writer f | control f | send f | receive f => rw [f.driver]; exact hne
  | callAdmit _ hal | callReceive hal => exact absurd hal hne
  | dropDriver | dropFields => rintro ⟨⟩

structure TearsDown (config : ConnectionConfig) (s : St) : Prop where
  /-- The runtime takes finitely many steps, though the transport may never be ready again. -/
  finite : ∀ ls s', InternalRun config s ls s' → ls.length ≤ s.fuel
  /-- Where they end, nothing is left. -/
  ends : ∀ ls s', InternalRun config s ls s' → (∀ l, l.internal = true → step config s' l = none) →
    Reclaimed config s'

/-- **Once its last handle is gone, a connection gives everything back.** -/
theorem tears_down (ls : List Label) (hrun : Lts.run (step config) (start config) ls = some s)
    (hfit : ∀ l ∈ ls, l.fits config = true) (hgone : s.driver ≠ .alive) : TearsDown config s := by
  have hreach : Reachable config s := ⟨ls, hrun⟩
  have hsup := supervised_reachable hreach
  have hstock := stock_run hrun hfit
  refine ⟨fun ls s' hp => ?_, fun ls s' hp hstuck => ?_⟩
  · have := hp.length_le (P := Supervised) St.fuel
      (fun _ _ _ hs hint hst => ⟨supervised_step hs hst, fuel_step hs.lifecycle hs.guards hint hst⟩) hsup
    omega
  · have hr' := hreach.trans hp
    have hs' := supervised_reachable hr'
    have hgone' : s'.driver ≠ .alive := hp.invariant (P := fun s => s.driver ≠ .alive)
      (fun _ _ _ hne _ hst => driver_gone hne hst) hgone
    have hst' : Stock config s' := hp.invariant (P := Stock config)
      (fun _ _ _ hs hint hst =>
        stock_step hs (Label.fits_of_unprompted (Label.unprompted_of_internal hint)) hst) hstock
    have hcore : ∀ l, l.core = true → step config s' l = none :=
      fun l hl => hstuck l (Label.internal_of_core hl)
    have hab := abort_of_stuck hcore
    -- the abort of the last handle is over
    have hclosed : 3 ≤ s'.cells.state.value.rank := by
      obtain ⟨a, ha⟩ := List.exists_mem_of_ne_nil _ (hs'.lifecycle.dropping hgone')
      exact hs'.lifecycle.closed_of_abort ha (by rw [hab a ha]; rfl)
    have hover := over_of_stuck hcore hs' (.inr fun ho => by rw [ho] at hclosed; cases hclosed)
    refine reclaimed_of_over hr' hst' hover hab ?_
    cases hd : s'.driver with
    | dropped => rfl
    | alive => exact absurd hd hgone'
    | dropping =>
      have hall : s'.aborts.all AbortLoc.isOver = true :=
        List.all_eq_true.mpr fun a ha => by rw [hab a ha]; rfl
      have hn := hstuck .dropFields rfl
      simp [step, hd, hall] at hn

/-- The last handle goes while a command is on its way to a sink that is not ready, and a message waits for
a `receive`. -/
def abandonedRun : List Label :=
  [.callAdmit 1, .send 0 .next, .send 0 .next, .send 0 .next, .send 0 (.handOver (.binary [7])), .send 0 .drop,
    .writer .next, .writer .next, .writer .outbound, .writer .next, .reader .next, .reader .next,
    .reader (.item (some (.ok (.binary [1, 2])))), .reader .next, .reader .next, .reader .next, .dropDriver]

theorem tears_down_abandoned :
    TearsDown .tiny (Lts.after (step .tiny) (start .tiny) abandonedRun) ∧
      (Lts.after (step .tiny) (start .tiny) abandonedRun).inbound.budget = 2 ∧
      (Lts.after (step .tiny) (start .tiny) abandonedRun).outbound.budget = 3 :=
  ⟨tears_down abandonedRun (Lts.run_after rfl) (by decide) (by rintro ⟨⟩), rfl, rfl⟩

end FogWS
