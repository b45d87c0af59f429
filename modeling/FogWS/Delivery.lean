import FogWS.Responsible
/-!
# Inbound delivery

Three places hold messages between the transport and the application: the inbound channel, the one
active `receive`, and what `receive` has returned. `St.delivered` is their concatenation. While the
signal is `Running` it is exactly what the reader has read, up to the message the reader still holds;
afterwards it is a prefix of it, because a message that is discarded is the last to come near the
channel (`queue_inbound` looks at the signal first).
-/
namespace FogWS

/-! ## The receive slot -/

/-- The call has claimed the receive slot. -/
def ReceiveLoc.active : ReceiveLoc → Nat
  | .lock | .recv | .took _ _ | .terminal | .finish _ => 1
  | .start | .returned _ | .dropped => 0

/-- The call holds the lock of the inbound receiver. -/
def ReceiveLoc.locks : ReceiveLoc → Nat
  | .recv | .took _ _ | .terminal | .finish _ => 1
  | .start | .lock | .returned _ | .dropped => 0

/-- The message in the call's hand. -/
def ReceiveLoc.hand : ReceiveLoc → List InboundMessage
  | .took message _ | .finish (.ok message) => [message]
  | _ => []

/-- The call has failed, or will, because the channel has ended. -/
def ReceiveLoc.Failing : ReceiveLoc → Prop
  | .terminal | .finish (.error _) => True
  | .returned (.error e) => ∀ m, e ≠ .concurrency m
  | _ => False

theorem ReceiveLoc.hand_of_inactive (l : ReceiveLoc) (h : l.active = 0) : l.hand = [] := by
  cases l <;> first | rfl | cases h

/-- The slot and the lock are taken by the calls that stand there, at most one of them. -/
structure Slot (s : St) : Prop where
  active : Pool.weigh ReceiveLoc.active s.receives = s.inbound.receiveActive.toNat
  locks : Pool.weigh ReceiveLoc.locks s.receives = s.inbound.locked.toNat

/-- The messages in the hands of `receive` calls. -/
def St.hand (s : St) : List InboundMessage := s.receives.flatMap ReceiveLoc.hand

/-- The messages returned, in hand, and queued. -/
def St.delivered (s : St) : List InboundMessage :=
  s.hist.returned ++ s.hand ++ s.inbound.channel.queue.map (·.message)

/-- The data message the reader holds. -/
def ReaderLoc.pending : ReaderLoc → List InboundMessage
  | .queue payload | .acquire payload => (InboundMessage.ofMessage payload).toList
  | .send message _ => [message]
  | _ => []

/-! ## The steps of `receive` -/

variable {config : ConnectionConfig} {s s' : St} {l : Label}

/-- What a step of `receive` does to the slot, the lock and the messages. -/
structure ReceiveMove (s s' : St) (i : Nat) (loc loc' : ReceiveLoc) : Prop where
  receives : s'.receives = s.receives.set i loc'
  active : s'.inbound.receiveActive.toNat + loc.active = s.inbound.receiveActive.toNat + loc'.active
  locks : s'.inbound.locked.toNat + loc.locks = s.inbound.locked.toNat + loc'.locks
  /-- Messages move from the channel to the hand to the caller. -/
  messages : (loc'.hand = loc.hand ∧ s'.hist.returned = s.hist.returned ∧
      s'.inbound.channel = s.inbound.channel) ∨
    loc.active = 1 ∧
      s.hist.returned ++ loc.hand ++ s.inbound.channel.queue.map (·.message) =
        s'.hist.returned ++ loc'.hand ++ s'.inbound.channel.queue.map (·.message) ∧
      s'.inbound.channel.closed = s.inbound.channel.closed ∧
      (loc.hand = [] ∧ s.inbound.channel.queue = [] → loc'.hand = [] ∧ s'.inbound.channel.queue = [])
  failing : loc'.Failing → loc.Failing ∨
    loc.active = 1 ∧ loc'.hand = [] ∧ s.reader.loc.isDone = true ∧ s'.inbound.channel.queue = []

theorem true_of_toNat {b : Bool} (h : 1 ≤ b.toNat) : b = true :=
  Bool.toNat_eq_one.mp (Nat.le_antisymm (Bool.toNat_le _) h)

theorem receiveStep_move {i : Nat} {loc : ReceiveLoc} {a : CallAct}
    (hact : loc.active ≤ s.inbound.receiveActive.toNat) (hlock : loc.locks ≤ s.inbound.locked.toNat)
    (h : receiveStep s i loc a = some s') : ∃ loc', ReceiveMove s s' i loc loc' := by
  have ha : 1 ≤ s.inbound.receiveActive.toNat → s.inbound.receiveActive = true := true_of_toNat
  have hl : 1 ≤ s.inbound.locked.toNat → s.inbound.locked = true := true_of_toNat
  cases receiveStep_rule h with
  | busy =>
    exact ⟨.returned (.error receiveBusy), rfl, rfl, rfl, .inl ⟨rfl, rfl, rfl⟩, fun hf => absurd rfl (hf _)⟩
  | start hra => exact ⟨.lock, rfl, by rw [hra]; rfl, rfl, .inl ⟨rfl, rfl, rfl⟩, nofun⟩
  | lock hfree => exact ⟨.recv, rfl, rfl, by rw [hfree]; rfl, .inl ⟨rfl, rfl, rfl⟩, nofun⟩
  | recv e channel hrecv =>
    obtain ⟨hq, -, hcl⟩ := Mpsc.recv_some hrecv
    exact ⟨.took _ _, rfl, rfl, rfl, .inr ⟨rfl, by simp [hq, ReceiveLoc.hand, St.receiveAt], hcl,
      fun hn => by rw [hq] at hn; cases hn.2⟩, nofun⟩
  | ended hrecv hdone =>
    exact ⟨.terminal, rfl, rfl, rfl, .inl ⟨rfl, rfl, rfl⟩,
      fun _ => .inr ⟨rfl, rfl, hdone, Mpsc.recv_eq_none.mp hrecv⟩⟩
  | took => exact ⟨.finish _, rfl, rfl, rfl, .inl ⟨rfl, rfl, rfl⟩, nofun⟩
  | terminal => exact ⟨.finish _, rfl, rfl, rfl, .inl ⟨rfl, rfl, rfl⟩, fun _ => .inl trivial⟩
  | deliver m =>
    exact ⟨.returned (.ok m), rfl, by rw [ha hact]; rfl, by rw [hl hlock]; rfl,
      .inr ⟨rfl, by simp [ReceiveLoc.hand, St.receiveAt], rfl, fun hn => by cases hn.1⟩, False.elim⟩
  | fail e =>
    exact ⟨.returned (.error e), rfl, by rw [ha hact]; rfl, by rw [hl hlock]; rfl, .inl ⟨rfl, rfl, rfl⟩,
      fun _ => .inl trivial⟩
  | dropStart => exact ⟨.dropped, rfl, rfl, rfl, .inl ⟨rfl, rfl, rfl⟩, nofun⟩
  | dropLock =>
    exact ⟨.dropped, rfl, by rw [ha hact]; rfl, rfl, .inl ⟨rfl, rfl, rfl⟩, nofun⟩
  | dropRecv =>
    exact ⟨.dropped, rfl, by rw [ha hact]; rfl, by rw [hl hlock]; rfl, .inl ⟨rfl, rfl, rfl⟩, nofun⟩

/-! ## The steps of the reader -/

/-- The reader is about to queue the message it holds, whatever the signal says. -/
def ReaderLoc.asking : ReaderLoc → Bool
  | .acquire _ | .send _ _ => true
  | _ => false

/-- Nothing will be queued any more: the channel is closed, the reader has left its loop, or it will
discard what it reads. -/
def Sealed (s : St) (loc : ReaderLoc) : Prop :=
  s.inbound.channel.closed = true ∨ loc.leaving = true ∨
    s.cells.shutdown.value ≠ .running ∧ loc.asking = false

/-- What is delivered is what has been read, up to what the reader holds; or it is a prefix of that,
for good. -/
def InOrder (s : St) (loc : ReaderLoc) : Prop :=
  s.delivered ++ loc.pending = s.hist.read ∨ s.delivered <+: s.hist.read ∧ Sealed s loc

theorem InOrder.isPrefix {loc : ReaderLoc} (h : InOrder s loc) : s.delivered <+: s.hist.read := by
  rcases h with h | ⟨h, -⟩
  · exact ⟨_, h⟩
  · exact h

/-- A step on which the reader holds no message before or after. -/
theorem InOrder.quiet {loc loc' : ReaderLoc} (h : InOrder s loc) (hd : s'.delivered = s.delivered)
    (hr : s'.hist.read = s.hist.read) (hc : s'.inbound.channel.closed = s.inbound.channel.closed)
    (hp : loc'.pending = loc.pending) (hlv : loc.leaving = true → loc'.leaving = true)
    (hrun : s'.cells.shutdown.value = .running → s.cells.shutdown.value = .running)
    (hask : loc.asking = false → loc'.asking = false) : InOrder s' loc' := by
  rcases h with h | ⟨h, hs⟩
  · exact .inl (by rw [hd, hr, hp]; exact h)
  · refine .inr ⟨by rw [hd, hr]; exact h, ?_⟩
    rcases hs with hs | hs | ⟨hs, ha⟩
    · exact .inl (hc ▸ hs)
    · exact .inr (.inl (hlv hs))
    · exact .inr (.inr ⟨fun hx => hs (hrun hx), hask ha⟩)

/-- A step that lets go of the message, after which nothing is queued any more. -/
theorem InOrder.discard {loc loc' : ReaderLoc} (h : InOrder s loc) (hd : s'.delivered = s.delivered)
    (hr : s'.hist.read = s.hist.read) (hs : Sealed s' loc') : InOrder s' loc' :=
  .inr ⟨by rw [hd, hr]; exact h.isPrefix, hs⟩

/-- A data message is read and held. -/
theorem InOrder.read {m : Message} {d : InboundMessage} (ho : InOrder s .select)
    (hm : InboundMessage.ofMessage m = some d) (hd : s'.delivered = s.delivered)
    (hr : s'.hist.read = s.hist.read ++ [d]) (hch : s'.inbound.channel = s.inbound.channel)
    (hcells : s'.cells = s.cells) : InOrder s' (.queue m) := by
  rcases ho with ho | ⟨ho, hs⟩
  · refine .inl ?_
    rw [hd, hr, ReaderLoc.pending, hm, ← ho]
    simp [ReaderLoc.pending]
  · refine .inr ⟨by rw [hd, hr]; exact ho.trans (List.prefix_append _ _), ?_⟩
    rcases hs with hs | hs | ⟨hs, -⟩
    · exact .inl (hch ▸ hs)
    · cases hs
    · exact .inr (.inr ⟨hcells ▸ hs, rfl⟩)

theorem ReaderLoc.pending_conclude (t : DriverError) : (ReaderLoc.conclude t).pending = [] := by
  unfold ReaderLoc.conclude
  split <;> rfl

theorem readerStep_order {loc : ReaderLoc} {a : ReaderAct} (hc : s.cells.Coherent)
    (ho : InOrder s loc) (h : readerStep s loc a = some s') : InOrder s' s'.reader.loc := by
  -- a version of the signal the reader has not seen
  have hmoved : s.reader.seen < s.cells.shutdown.version → s.cells.shutdown.value ≠ .running :=
    fun hlt hrun => by
      have := hc.signal_pos hlt
      rw [hrun] at this; exact absurd this (by decide)
  cases readerStep_rule h with
  | text => exact ho.read (d := .text _) rfl rfl rfl rfl rfl
  | binary => exact ho.read (d := .binary _) rfl rfl rfl rfl rfl
  | selectChanged hv | acquireChanged _ hv | sendChanged _ _ hv =>
    exact ho.discard rfl rfl (.inr (.inr ⟨hmoved hv, rfl⟩))
  -- the signal decides whether the message goes on
  | queueStopped _ hstop => exact ho.discard rfl rfl (.inr (.inr ⟨hstop, rfl⟩))
  | queue _ hrun =>
    rcases ho with ho | ⟨ho, hs | hs | ⟨hs, -⟩⟩
    · exact .inl ho
    · exact .inr ⟨ho, .inl hs⟩
    · cases hs
    · exact absurd hrun hs
  | acquire _ _ _ hm =>
    rcases ho with ho | ⟨ho, hs | hs | ⟨-, hs⟩⟩
    · simp only [ReaderLoc.pending, hm] at ho
      exact .inl ho
    · exact .inr ⟨ho, .inl hs⟩
    · cases hs
    · cases hs
  | send m permit channel hsend =>
    obtain ⟨hopen, -, rfl⟩ := Mpsc.trySend_ok hsend
    rcases ho with ho | ⟨ho, hs | hs | ⟨-, hs⟩⟩
    · refine .inl (Eq.trans ?_ ho)
      simp [St.delivered, St.hand, St.readerAt, ReaderLoc.pending]
    · rw [hopen] at hs; cases hs
    · cases hs
    · cases hs
  | errTaken | ended =>
    exact ho.quiet rfl rfl rfl (ReaderLoc.pending_conclude _) (fun _ => ReaderLoc.leaving_conclude _) id
      fun _ => by unfold ReaderLoc.conclude; dsimp only [St.readerAt]; split <;> rfl
  -- the reader has left its loop
  | queueTooLong | acquireOther | sendClosed | finishSignal | failureSignal | kill =>
    exact ho.discard rfl rfl (.inr (.inl rfl))
  | closeTaken | closeMark | finish | finishSubscribe | finishOver | finishWait | finishTimer
  | finishExpired | finishAbort | failure | failureAbort | leave | returned =>
    exact ho.quiet rfl rfl rfl rfl (fun _ => rfl) id (fun _ => rfl)
  | _ => exact ho.quiet rfl rfl rfl rfl (by rintro ⟨⟩) id (fun _ => rfl)

/-! ## The invariant -/

/-- The reader is gone, and everything that was queued has been returned. -/
structure Drained (s : St) : Prop where
  reader : s.reader.loc.isDone = true
  queue : s.inbound.channel.queue = []
  hand : s.hand = []

structure Delivery (s : St) : Prop where
  slot : Slot s
  order : InOrder s s.reader.loc
  drained : ∀ l ∈ s.receives, l.Failing → Drained s
  /-- Only the fields of a driver that has aborted are dropped. -/
  closed : s.inbound.channel.closed = true → s.cells.shutdown.value = .abort

theorem delivery_start (config : ConnectionConfig) : Delivery (start config) :=
  ⟨⟨rfl, rfl⟩, .inl rfl, nofun, nofun⟩

/-- What `receive` has returned was read first. -/
theorem Delivery.returned_isPrefix (h : Delivery s) : s.hist.returned <+: s.hist.read :=
  List.IsPrefix.trans ⟨s.hand ++ s.inbound.channel.queue.map (·.message), by simp [St.delivered]⟩
    h.order.isPrefix

/-- The active call holds all that is in hand, before and after its step. -/
theorem Slot.hand (h : Slot s) {i : Nat} {loc : ReceiveLoc} (loc' : ReceiveLoc)
    (hloc : s.receives[i]? = some loc) (ha : loc.active = 1) :
    s.hand = loc.hand ∧ (s.receives.set i loc').flatMap ReceiveLoc.hand = loc'.hand := by
  have hle := Pool.weigh_le_of_get (f := ReceiveLoc.active) hloc
  have hact := h.active
  have htop := s.inbound.receiveActive.toNat_le
  have hset := Pool.weigh_set (f := ReceiveLoc.active) hloc loc'
  have hi := (List.getElem?_eq_some_iff.mp hloc).1
  exact ⟨Pool.flatMap_of_weigh ReceiveLoc.hand_of_inactive hloc (by omega),
    Pool.flatMap_of_weigh ReceiveLoc.hand_of_inactive (i := i) (by simp [hi]) (by omega)⟩

theorem Drained.of_eq (h : Drained s) (hr : s.reader.loc.isDone = true → s'.reader.loc.isDone = true)
    (hq : s'.inbound.channel = s.inbound.channel) (hrec : s'.receives = s.receives) : Drained s' :=
  ⟨hr h.reader, hq ▸ h.queue, by rw [St.hand, hrec]; exact h.hand⟩

/-- A step of a process other than the reader and the calls of `receive`. -/
theorem Delivery.of_eq (h : Delivery s) (he : s.cells.Evolves s'.cells) (hr : s'.reader = s.reader)
    (hrec : s'.receives = s.receives) (hi : s'.inbound = s.inbound) (hread : s'.hist.read = s.hist.read)
    (hret : s'.hist.returned = s.hist.returned) : Delivery s' := by
  refine ⟨⟨?_, ?_⟩, ?_, ?_, fun hcl => he.abort (h.closed (hi ▸ hcl))⟩
  · rw [hrec, hi]; exact h.slot.active
  · rw [hrec, hi]; exact h.slot.locks
  · rw [hr]
    refine h.order.quiet ?_ hread (by rw [hi]) rfl id (fun hrun => ?_) id
    · simp only [St.delivered, St.hand, hrec, hret, hi]
    · have hle := he.signal_le
      rw [hrun] at hle
      exact ShutdownSignal.rank_eq_zero.mp (Nat.le_zero.mp hle)
  · intro l hl hf
    exact (h.drained l (hrec ▸ hl) hf).of_eq (fun hd => hr ▸ hd) (by rw [hi]) hrec

theorem readerStep_closed {loc : ReaderLoc} {a : ReaderAct} (h : readerStep s loc a = some s') :
    s'.inbound.channel.closed = s.inbound.channel.closed := by
  cases readerStep_rule h with
  | send m permit channel hsend =>
    obtain ⟨-, -, rfl⟩ := Mpsc.trySend_ok hsend
    rfl
  | _ => rfl

theorem readerStep_done {loc : ReaderLoc} {a : ReaderAct} (hd : loc.isDone = true)
    (h : readerStep s loc a = some s') :
    s'.reader.loc.isDone = true ∧ s'.inbound = s.inbound ∧ s'.hist = s.hist := by
  cases readerStep_rule h with
  | returned => exact ⟨rfl, rfl, rfl⟩
  | kill haw =>
    cases loc with
    | returned | finished => cases haw
    | _ => cases hd
  | _ => cases hd

/-- **A step of `receive` delivers nothing new and loses nothing.** -/
theorem receive_delivered {i : Nat} {loc loc' : ReceiveLoc} (h : Slot s) (hloc : s.receives[i]? = some loc)
    (m : ReceiveMove s s' i loc loc') :
    s'.delivered = s.delivered ∧ s'.inbound.channel.closed = s.inbound.channel.closed ∧
      (s.hand = [] → s.inbound.channel.queue = [] → s'.hand = [] ∧ s'.inbound.channel.queue = []) := by
  have hhand : s'.hand = (s.receives.set i loc').flatMap ReceiveLoc.hand := by rw [St.hand, m.receives]
  rcases m.messages with ⟨hh, hret, hch⟩ | ⟨ha, heq, hcl, hnil⟩
  · have hsame : s'.hand = s.hand := by rw [hhand]; exact Pool.flatMap_set hloc hh
    exact ⟨by rw [St.delivered, hsame, hret, hch]; rfl, by rw [hch], fun h1 h2 => ⟨hsame ▸ h1, hch ▸ h2⟩⟩
  · obtain ⟨h1, h2⟩ := h.hand loc' hloc ha
    refine ⟨?_, hcl, fun hn hq => ?_⟩
    · rw [St.delivered, St.delivered, hhand, h2, h1]; exact heq.symm
    · rw [hhand, h2]; exact hnil ⟨h1 ▸ hn, hq⟩

theorem receive_move {i : Nat} {a : CallAct} (h : Slot s)
    (hst : step config s (.receive i a) = some s') :
    ∃ loc loc', s.receives[i]? = some loc ∧ ReceiveMove s s' i loc loc' := by
  obtain ⟨loc, hloc, hst⟩ := Option.bind_eq_some_iff.mp hst
  have hact := h.active
  have hlocks := h.locks
  have hle := Pool.weigh_le_of_get (f := ReceiveLoc.active) hloc
  have hle' := Pool.weigh_le_of_get (f := ReceiveLoc.locks) hloc
  obtain ⟨loc', m⟩ := receiveStep_move (by omega) (by omega) hst
  exact ⟨loc, loc', hloc, m⟩

theorem delivery_receive {i : Nat} {a : CallAct} (h : Delivery s)
    (hst : step config s (.receive i a) = some s') : Delivery s' := by
  obtain ⟨loc, loc', hloc, m⟩ := receive_move h.slot hst
  obtain ⟨hdel, hcl, hnil⟩ := receive_delivered h.slot hloc m
  have f : ReceiveFrame s s' := by
    obtain ⟨_, -, hst⟩ := Option.bind_eq_some_iff.mp hst
    exact receiveStep_frame hst
  have hread : s'.hist.read = s.hist.read := by rw [f.hist]
  have hact := h.slot.active
  have hlocks := h.slot.locks
  have hwa := Pool.weigh_set (f := ReceiveLoc.active) hloc loc'
  have hwl := Pool.weigh_set (f := ReceiveLoc.locks) hloc loc'
  have hma := m.active
  have hml := m.locks
  have hdr : Drained s → Drained s' := fun d =>
    have ⟨h1, h2⟩ := hnil d.hand d.queue
    ⟨by rw [f.reader]; exact d.reader, h2, h1⟩
  refine ⟨⟨?_, ?_⟩, ?_, ?_, ?_⟩
  · rw [m.receives]; omega
  · rw [m.receives]; omega
  · rw [f.reader]
    exact h.order.quiet hdel hread hcl rfl id (fun hrun => by rw [f.cells] at hrun; exact hrun) id
  · intro x hx hf
    rw [m.receives] at hx
    rcases List.mem_or_eq_of_mem_set hx with hx | rfl
    · exact hdr (h.drained x hx hf)
    · rcases m.failing hf with hf | ⟨ha, hh, hd, hq⟩
      · exact hdr (h.drained loc (List.mem_of_getElem? hloc) hf)
      · refine ⟨by rw [f.reader]; exact hd, hq, ?_⟩
        rw [St.hand, m.receives, (h.slot.hand _ hloc ha).2, hh]
  · rw [hcl, f.cells]; exact h.closed

theorem delivery_step (hl : Lifecycle s) (h : Delivery s) (hst : step config s l = some s') :
    Delivery s' := by
  have he := (lifecycle_step hl hst).2
  cases step_move hst with
  | reader f hst =>
    refine ⟨⟨?_, ?_⟩, readerStep_order hl.cells h.order hst, ?_, fun hcl => ?_⟩
    · rw [f.receives, f.receiveActive]; exact h.slot.active
    · rw [f.receives, f.locked]; exact h.slot.locks
    · intro x hx hf
      have d := h.drained x (f.receives ▸ hx) hf
      obtain ⟨hd, hi, -⟩ := readerStep_done d.reader hst
      exact d.of_eq (fun _ => hd) (by rw [hi]) f.receives
    · exact he.abort (h.closed (readerStep_closed hst ▸ hcl))
  | writer f => exact h.of_eq he f.reader f.receives f.inbound f.read f.returned
  | control f | send f =>
    exact h.of_eq he f.reader f.receives f.inbound (by rw [f.hist]) (by rw [f.hist])
  | receive => exact delivery_receive h hst
  | callReceive =>
    have hhand : (s.receives ++ [ReceiveLoc.start]).flatMap ReceiveLoc.hand = s.hand := by
      simp [St.hand, ReceiveLoc.hand]
    refine ⟨⟨?_, ?_⟩, ?_, ?_, h.closed⟩
    · simpa [ReceiveLoc.active] using h.slot.active
    · simpa [ReceiveLoc.locks] using h.slot.locks
    · refine h.order.quiet ?_ rfl rfl rfl id id id
      simp only [St.delivered]
      exact congrArg (s.hist.returned ++ · ++ _) hhand
    · intro x hx hf
      rcases List.mem_append.mp hx with hx | hx
      · have d := h.drained x hx hf
        exact ⟨d.reader, d.queue, hhand.trans d.hand⟩
      · rw [List.mem_singleton.mp hx] at hf; cases hf
  | callAdmit | dropDriver => exact h.of_eq he rfl rfl rfl rfl rfl
  | dropFields hdr hover =>
    refine ⟨⟨h.slot.active, h.slot.locks⟩, .inr ⟨?_, .inl rfl⟩, fun x hx hf => ?_, fun _ => ?_⟩
    · refine List.IsPrefix.trans ?_ h.order.isPrefix
      exact ⟨s.inbound.channel.queue.map (·.message), by simp [St.delivered, St.hand, dropFields,
        Mpsc.dropReceiver]⟩
    · have d := h.drained x hx hf
      exact ⟨d.reader, rfl, d.hand⟩
    · -- `abort` ran to its end before the fields are dropped
      obtain ⟨x, hx⟩ := List.exists_mem_of_ne_nil _ (hl.dropping (by rw [hdr]; rintro ⟨⟩))
      have hok := hl.aborts x hx
      cases x with
      | done => exact ShutdownSignal.rank_eq_three.mp (Nat.le_antisymm (ShutdownSignal.rank_le _) hok.1)
      | _ => cases List.all_eq_true.mp hover _ hx

theorem delivery_reachable (h : Reachable config s) : Delivery s :=
  (h.invariant (P := fun s => Lifecycle s ∧ Delivery s) ⟨lifecycle_start config, delivery_start config⟩
    fun _ _ _ hP hst => ⟨(lifecycle_step hP.1 hst).1, delivery_step hP.1 hP.2 hst⟩).2

/-! ## A stream read to its end is delivered to its end -/

/-- The reader has left its loop with nothing lost. A driver that has been dropped has no `receive`
left to tell. -/
def Complete (s : St) : Prop :=
  s.reader.loc.leaving = true ∧
    (s.delivered = s.hist.read ∨ s.driver ≠ .alive ∧ ∀ l ∈ s.receives, ¬l.Failing)

theorem readerStep_leaving {loc : ReaderLoc} {a : ReaderAct} (hlv : loc.leaving = true)
    (h : readerStep s loc a = some s') : s'.reader.loc.leaving = true ∧
      s'.inbound.channel = s.inbound.channel ∧ s'.hist.read = s.hist.read := by
  refine ⟨(readerStep_duty h).leaving hlv, ?_⟩
  cases readerStep_rule h with
  | text | binary | send => cases hlv
  | _ => exact ⟨rfl, rfl⟩

/-- A step of a process other than the reader and the calls of `receive`. -/
theorem Complete.of_eq (h : Complete s) (hr : s'.reader = s.reader) (hrec : s'.receives = s.receives)
    (hi : s'.inbound = s.inbound) (hread : s'.hist.read = s.hist.read)
    (hret : s'.hist.returned = s.hist.returned) (hd : s.driver ≠ .alive → s'.driver ≠ .alive) :
    Complete s' := by
  refine ⟨hr ▸ h.1, h.2.imp (fun hx => ?_) fun hx => ⟨hd hx.1, hrec ▸ hx.2⟩⟩
  rw [hread, ← hx]
  simp only [St.delivered, St.hand, hrec, hret, hi]

theorem complete_step (hdel : Delivery s) (hret : Retired s) (h : Complete s)
    (hst : step config s l = some s') : Complete s' := by
  cases step_move hst with
  | reader f hst =>
    obtain ⟨hlv, hch, hread⟩ := readerStep_leaving h.1 hst
    refine ⟨hlv, h.2.imp (fun hx => ?_) fun hx => ⟨f.driver ▸ hx.1, f.receives ▸ hx.2⟩⟩
    rw [hread, ← hx]
    simp only [St.delivered, St.hand, f.receives, f.returned, hch]
  | writer f =>
    exact h.of_eq f.reader f.receives f.inbound f.read f.returned (by rw [f.driver]; exact id)
  | control f | send f =>
    exact h.of_eq f.reader f.receives f.inbound (by rw [f.hist]) (by rw [f.hist])
      (by rw [f.driver]; exact id)
  | receive f hloc' hst' =>
    obtain ⟨loc, loc', hloc, m⟩ := receive_move hdel.slot hst
    refine ⟨by rw [f.reader]; exact h.1, h.2.imp (fun hx => ?_) fun hx => ?_⟩
    · rw [(receive_delivered hdel.slot hloc m).1, hx, f.hist]
    · -- no call is left
      rw [receiveStep_over (hret.receives hx.1 _ (List.mem_of_getElem? hloc'))] at hst'
      cases hst'
  | callReceive hal =>
    refine ⟨h.1, .inl ((h.2.resolve_right fun hx => hx.1 hal) ▸ ?_)⟩
    simp [St.delivered, St.hand, ReceiveLoc.hand]
  | callAdmit => exact h.of_eq rfl rfl rfl rfl rfl id
  | dropDriver => exact h.of_eq rfl rfl rfl rfl rfl (by rintro _ ⟨⟩)
  | dropFields =>
    refine ⟨h.1, ?_⟩
    by_cases hf : ∃ l ∈ s.receives, l.Failing
    · obtain ⟨x, hx, hfx⟩ := hf
      have d := hdel.drained x hx hfx
      refine .inl ((h.2.resolve_right fun hn => hn.2 x hx hfx) ▸ ?_)
      simp [St.delivered, St.hand, dropFields, Mpsc.dropReceiver, d.queue]
    · exact .inr ⟨(by rintro ⟨⟩), fun x hx hfx => hf ⟨x, hx, hfx⟩⟩

/-- The items on which the reader leaves its loop. -/
def endsStream : Option (Except WsError Message) → Bool
  | none | some (.error _) | some (.ok (.close _)) => true
  | _ => false

/-- A stream that ends while the signal is `Running` has been read without loss. -/
theorem complete_of_item {i : Option (Except WsError Message)} (h : Delivery s)
    (hloc : s.reader.loc = .select) (hrun : s.cells.shutdown.value = .running) (hi : endsStream i = true)
    (hst : step config s (.reader (.item i)) = some s') : Complete s' := by
  have ho : s.delivered = s.hist.read := by
    have ho := h.order
    rw [hloc] at ho
    rcases ho with ho | ⟨-, hs | hs | ⟨hs, -⟩⟩
    · simpa [ReaderLoc.pending] using ho
    · exact absurd (h.closed hs) (by rw [hrun]; nofun)
    · cases hs
    · exact absurd hrun hs
  simp only [step, hloc] at hst
  cases readerStep_rule hst with
  | streamEnd | streamError | closeFrame => exact ⟨rfl, .inl ho⟩
  | text | binary | ping | pong | frame => cases hi

/-! ## The result -/

structure ExactDelivery (config : ConnectionConfig) (s : St) : Prop where
  /-- No gap, no duplicate, no reordering. -/
  order : s.hist.returned <+: s.hist.read
  /-- A terminal failure leaves nothing behind: all that was ever queued has been returned. -/
  drained : ∀ l ∈ s.receives, l.Failing → s.inbound.channel.queue = [] ∧ s.delivered = s.hist.returned
  /-- If the stream ends while the signal is `Running`, everything read is returned before a failure. -/
  complete : ∀ i s₁, s.reader.loc = .select → s.cells.shutdown.value = .running → endsStream i = true →
    step config s (.reader (.item i)) = some s₁ →
      ∀ ls s', Lts.run (step config) s₁ ls = some s' → ∀ l ∈ s'.receives, l.Failing →
        s'.hist.returned = s'.hist.read
  /-- A call that finds another one active fails, and changes nothing else. -/
  busy : ∀ i, s.receives[i]? = some .start → (∃ l ∈ s.receives, l.active = 1) →
    step config s (.receive i .next) = some (s.receiveAt i (.returned (.error receiveBusy)))
  /-- The slot is taken exactly while a call is active, and by one call at most. -/
  slot : (s.inbound.receiveActive = true ↔ ∃ l ∈ s.receives, l.active = 1) ∧
    Pool.weigh ReceiveLoc.active s.receives ≤ 1
  /-- However the active call ends, the slot is free again. -/
  free : ∀ i a l l' s', s.receives[i]? = some l → l.active = 1 →
    step config s (.receive i a) = some s' → s'.receives[i]? = some l' → l'.active = 0 →
      s'.inbound.receiveActive = false

theorem Slot.busy_iff (h : Slot s) : s.inbound.receiveActive = true ↔ ∃ l ∈ s.receives, l.active = 1 := by
  have hact := h.active
  constructor
  · intro ht
    rw [ht] at hact
    by_contra hno
    have h0 : Pool.weigh ReceiveLoc.active s.receives = 0 := Pool.weigh_eq_zero fun x hx => by
      cases x <;> first | rfl | exact absurd ⟨_, hx, rfl⟩ hno
    rw [h0] at hact; cases hact
  · rintro ⟨x, hx, ha⟩
    have := Pool.weigh_le_of_mem (f := ReceiveLoc.active) hx
    exact true_of_toNat (by omega)

theorem exact_delivery (h : Reachable config s) : ExactDelivery config s := by
  have hd := delivery_reachable h
  constructor
  · exact hd.returned_isPrefix
  · intro x hx hf
    have d := hd.drained x hx hf
    exact ⟨d.queue, by simp [St.delivered, d.hand, d.queue]⟩
  · intro i s₁ hloc hrun hi hst ls s' hpath x hx hf
    have hc := complete_of_item hd hloc hrun hi hst
    obtain ⟨-, hd', -, hc'⟩ := (Lts.path_of_run hpath).invariant
      (P := fun s => Lifecycle s ∧ Delivery s ∧ Retired s ∧ Complete s)
      (fun _ _ _ ⟨hl, hd, hr, hc⟩ _ hst => ⟨(lifecycle_step hl hst).1, delivery_step hl hd hst,
        retired_step hr hst, complete_step hd hr hc hst⟩)
      ⟨lifecycle_reachable (h.next hst), delivery_reachable (h.next hst),
        retired_reachable (h.next hst), hc⟩
    have d := hd'.drained x hx hf
    rw [← hc'.2.resolve_right fun hn => hn.2 x hx hf]
    simp [St.delivered, d.hand, d.queue]
  · intro i hi hact
    simp only [step, hi, Option.bind_some, receiveStep, hd.slot.busy_iff.mpr hact, if_true]
  · have := s.inbound.receiveActive.toNat_le
    exact ⟨hd.slot.busy_iff, by rw [hd.slot.active]; exact this⟩
  · intro i a l l' s' hl ha hst hl' ha'
    have hd' := delivery_reachable (h.next hst)
    obtain ⟨loc, loc', hloc, m⟩ := receive_move hd.slot hst
    obtain rfl : loc = l := by simpa [hl] using hloc.symm
    obtain rfl : loc' = l' := by simpa [m.receives, (List.getElem?_eq_some_iff.mp hl).1] using hl'
    have hma := m.active
    have := s.inbound.receiveActive.toNat_le
    exact Bool.toNat_eq_zero.mp (by omega)

/-- Two messages are read, one is received, and the stream ends before the second is. -/
def readToEndRun : List Label :=
  [.reader .next, .reader .next, .reader (.item (some (.ok (.binary [1])))), .reader .next, .reader .next,
    .reader .next, .callReceive, .receive 0 .next, .receive 0 .next, .receive 0 .next, .receive 0 .next,
    .receive 0 .next, .reader .next, .reader (.item (some (.ok (.binary [2])))), .reader .next,
    .reader .next, .reader .next, .reader .next]

theorem exact_delivery_readToEnd :
    ExactDelivery .tiny (Lts.after (step .tiny) (start .tiny) readToEndRun) ∧
      (Lts.after (step .tiny) (start .tiny) readToEndRun).hist.returned = [.binary [1]] :=
  ⟨exact_delivery (Lts.reachable_after rfl), rfl⟩

end FogWS
