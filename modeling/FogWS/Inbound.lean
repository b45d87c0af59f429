import FogWS.Delivery
/-!
# The inbound bound

`queue_inbound` (driver.rs:536) waits for two resources in turn: byte permits of `inbound_budget`, then a
slot of the inbound channel. Each wait may be abandoned when the signal changes, and the permits go back.

| here | there |
| --- | --- |
| `Label.fits` | `max_message_size` of the WebSocket library bounds every data message |
| `Stock` | who holds the permits and the slots |
| `St.inboundBytes` | the bytes of the messages between the transport and the caller of `receive` |
| `Unblocked` | a message gets into the channel by the steps of the tasks alone |
-/
namespace FogWS

def InboundMessage.len : InboundMessage → Nat
  | .binary payload => payload.length
  | .text payload => payload.utf8ByteSize

theorem InboundMessage.len_of_ofMessage {m : Message} {d : InboundMessage} (h : ofMessage m = some d) :
    d.len = m.len := by
  cases m <;> cases h <;> rfl

/-- The byte permits in the hands of a `receive`. -/
def ReceiveLoc.bytes : ReceiveLoc → Nat
  | .took _ permit => permit
  | _ => 0

/-- The library gives no data message larger than `max_message_size`. -/
def Label.fits (config : ConnectionConfig) : Label → Bool
  | .reader (.item (some (.ok (.text payload)))) => payload.utf8ByteSize ≤ config.maxMessageSize
  | .reader (.item (some (.ok (.binary payload)))) => payload.length ≤ config.maxMessageSize
  | _ => true

/-- What the reader holds is a data message of at most `max_message_size` bytes, with its permits if any. -/
def ReaderLoc.Sized (config : ConnectionConfig) : ReaderLoc → Prop
  | .queue payload | .acquire payload =>
    (∃ d, InboundMessage.ofMessage payload = some d) ∧ payload.len ≤ config.maxMessageSize
  | .send message permit => permit = message.len ∧ permit ≤ config.maxMessageSize
  | _ => True

/-- A message comes with as many permits as it has bytes. -/
def ReceiveLoc.Sized : ReceiveLoc → Prop
  | .took message permit => permit = message.len
  | _ => True

structure Stock (config : ConnectionConfig) (s : St) : Prop where
  bytes : s.inbound.budget + s.reader.loc.held +
    Pool.weigh InboundEnvelope.permit s.inbound.channel.queue +
    Pool.weigh ReceiveLoc.bytes s.receives = config.maxBufferedBytes
  slots : s.inbound.channel.load = config.maxQueue
  reader : s.reader.loc.Sized config
  queue : ∀ e ∈ s.inbound.channel.queue, e.permit = e.message.len
  receives : ∀ l ∈ s.receives, l.Sized

theorem stock_start (config : ConnectionConfig) : Stock config (start config) :=
  ⟨rfl, rfl, trivial, List.forall_mem_nil _, List.forall_mem_nil _⟩

variable {config : ConnectionConfig} {s s' : St} {l : Label}

/-! ## The steps of the reader -/

/-- What a step of the reader does to the permits and the slots. -/
structure ReaderStock (config : ConnectionConfig) (s s' : St) (loc : ReaderLoc) : Prop where
  bytes : s'.inbound.budget + s'.reader.loc.held +
      Pool.weigh InboundEnvelope.permit s'.inbound.channel.queue =
    s.inbound.budget + loc.held + Pool.weigh InboundEnvelope.permit s.inbound.channel.queue
  load : s'.inbound.channel.load = s.inbound.channel.load
  reader : s'.reader.loc.Sized config
  queue : ∀ e ∈ s'.inbound.channel.queue, e ∈ s.inbound.channel.queue ∨ e.permit = e.message.len

/-- The permits in the reader's hands, if any, go back; the channel stays. -/
theorem ReaderStock.back {loc : ReaderLoc}
    (hb : s'.inbound.budget + s'.reader.loc.held = s.inbound.budget + loc.held)
    (hc : s'.inbound.channel = s.inbound.channel) (hr : s'.reader.loc.Sized config) :
    ReaderStock config s s' loc :=
  ⟨by rw [hc, hb], by rw [hc], hr, by rw [hc]; exact fun _ => .inl⟩

theorem readerStep_stock {a : ReaderAct} (hs : s.reader.loc.Sized config)
    (hfit : (Label.reader a).fits config = true) (h : readerStep s s.reader.loc a = some s') :
    ReaderStock config s s' s.reader.loc := by
  generalize hloc : s.reader.loc = loc at h hs
  cases readerStep_rule h with
  | text | binary => exact .back rfl rfl ⟨⟨_, rfl⟩, of_decide_eq_true hfit⟩
  | queue => exact .back rfl rfl hs
  | acquire payload d hle hd =>
    -- the permits are those of the message
    refine .back ?_ rfl ⟨(InboundMessage.len_of_ofMessage hd).symm, hs.2⟩
    exact Nat.sub_add_cancel hle
  | acquireOther _ hle => exact .back (Nat.sub_add_cancel hle) rfl trivial
  | send message permit channel hsend =>
    -- the permits move into the channel
    obtain ⟨-, hpos, rfl⟩ := Mpsc.trySend_ok hsend
    refine ⟨?_, ?_, trivial, fun e he => ?_⟩
    · simp only [St.readerAt, ReaderLoc.held, Pool.weigh_append, Pool.weigh_cons, Pool.weigh_nil]
      omega
    · simp only [Mpsc.load, List.length_append, List.length_singleton]
      omega
    · rcases List.mem_append.mp he with he | he
      · exact .inl he
      · rw [List.mem_singleton.mp he]; exact .inr hs.1
  | errTaken | ended =>
    dsimp only [St.readerAt, ReaderLoc.conclude]
    split <;> exact .back rfl rfl trivial
  | leave | kill => exact .back (by simp [dropReader, hloc, ReaderLoc.held]) rfl trivial
  | _ => exact .back rfl rfl trivial

/-! ## The steps of `receive` -/

/-- What a step of a `receive` does to the permits and the slots. -/
structure ReceiveStock (s s' : St) (i : Nat) (loc loc' : ReceiveLoc) : Prop where
  receives : s'.receives = s.receives.set i loc'
  bytes : s'.inbound.budget + Pool.weigh InboundEnvelope.permit s'.inbound.channel.queue + loc'.bytes =
    s.inbound.budget + Pool.weigh InboundEnvelope.permit s.inbound.channel.queue + loc.bytes
  load : s'.inbound.channel.load = s.inbound.channel.load
  queue : ∀ e ∈ s'.inbound.channel.queue, e ∈ s.inbound.channel.queue
  sized : loc'.Sized

theorem receiveStep_stock {i : Nat} {loc : ReceiveLoc} {a : CallAct}
    (hq : ∀ e ∈ s.inbound.channel.queue, e.permit = e.message.len)
    (h : receiveStep s i loc a = some s') : ∃ loc', ReceiveStock s s' i loc loc' := by
  cases receiveStep_rule h with
  | recv e channel hrecv =>
    -- the permits move from the channel into the hand
    have hload := Mpsc.load_recv hrecv
    obtain ⟨hqueue, -, -⟩ := Mpsc.recv_some hrecv
    refine ⟨.took e.message e.permit, rfl, ?_, hload, fun x hx => ?_, ?_⟩
    · simp only [St.receiveAt, hqueue, Pool.weigh_cons, ReceiveLoc.bytes]
      omega
    · rw [hqueue]; exact .tail e hx
    · exact hq e (by rw [hqueue]; exact .head _)
  | took =>
    -- the permits go back
    refine ⟨.finish _, rfl, ?_, rfl, fun _ => id, trivial⟩
    simp only [St.receiveAt, ReceiveLoc.bytes]
    omega
  | _ => exact ⟨_, rfl, rfl, rfl, fun _ => id, trivial⟩

/-! ## The account -/

theorem Stock.of_eq (h : Stock config s) (hr : s'.reader = s.reader) (hrec : s'.receives = s.receives)
    (hi : s'.inbound = s.inbound) : Stock config s' :=
  ⟨by rw [hi, hr, hrec]; exact h.bytes, by rw [hi]; exact h.slots, hr ▸ h.reader, by rw [hi]; exact h.queue,
    hrec ▸ h.receives⟩

/-- **Every step keeps the account**, an abandoned wait, a discarded message and the drop of the channel
included. -/
theorem stock_step (h : Stock config s) (hfit : l.fits config = true) (hst : step config s l = some s') :
    Stock config s' := by
  have hbytes := h.bytes
  have hslots := h.slots
  cases step_move hst with
  | reader f hst =>
    have d := readerStep_stock h.reader hfit hst
    have hb := d.bytes
    refine ⟨?_, d.load.trans hslots, d.reader, fun e he => ?_, f.receives ▸ h.receives⟩
    · rw [f.receives]; omega
    · exact (d.queue e he).elim (h.queue e) id
  | receive f hloc hst =>
    obtain ⟨loc', d⟩ := receiveStep_stock h.queue hst
    have hb := d.bytes
    have hw := Pool.weigh_set (f := ReceiveLoc.bytes) hloc loc'
    refine ⟨?_, d.load.trans hslots, f.reader ▸ h.reader, fun e he => h.queue e (d.queue e he), ?_⟩
    · rw [f.reader, d.receives]; omega
    · rw [d.receives]; exact Pool.forall_set h.receives d.sized
  | writer f => exact h.of_eq f.reader f.receives f.inbound
  | control f => exact h.of_eq f.reader f.receives f.inbound
  | send f => exact h.of_eq f.reader f.receives f.inbound
  | callAdmit | dropDriver => exact h.of_eq rfl rfl rfl
  | callReceive =>
    refine ⟨?_, hslots, h.reader, h.queue, Pool.forall_snoc h.receives trivial⟩
    rw [Pool.weigh_append]; exact hbytes
  | dropFields =>
    -- what is queued is dropped with its permits
    refine ⟨?_, ?_, h.reader, List.forall_mem_nil _, h.receives⟩
    · have hsum : (s.inbound.channel.queue.map fun e => e.permit).sum =
          Pool.weigh InboundEnvelope.permit s.inbound.channel.queue := rfl
      simp only [dropFields, Mpsc.dropReceiver, Pool.weigh_nil, hsum]
      omega
    · simpa [dropFields, Mpsc.dropReceiver, Mpsc.load] using hslots

theorem stock_run {ls : List Label} (h : Lts.run (step config) (start config) ls = some s)
    (hfit : ∀ l ∈ ls, l.fits config = true) : Stock config s :=
  ((Lts.path_of_run h).restrict hfit).invariant (fun _ _ _ hs hok hst => stock_step hs hok.2 hst)
    (stock_start config)

/-! ## The reader is not held up -/

/-- The reader puts `d` into the empty channel by its own steps, once the `receive` that still holds the
permits of the message it took has dropped them; or it finds the receiver gone. -/
def Unblocked (config : ConnectionConfig) (s : St) (d : InboundMessage) : Prop :=
  ∃ ls t, (∀ l ∈ ls, l = .reader .next ∨
      ∃ (i : Nat) (m : InboundMessage) (k : Nat), l = .receive i .next ∧ s.receives[i]? = some (.took m k)) ∧
    Lts.run (step config) s ls = some t ∧
      (t.inbound.channel.queue = [⟨d, d.len⟩] ∧ t.reader.loc = .top ∨
        s.inbound.channel.closed = true ∧ t.reader.loc = .ended)

/-- With a free slot, the message is sent. -/
theorem send_unblocked {d : InboundMessage} {k : Nat} (hloc : s.reader.loc = .send d k)
    (hk : k = d.len) (hq : s.inbound.channel.queue = []) (hfree : 0 < s.inbound.channel.free) :
    Unblocked config s d := by
  have hown : ∀ l ∈ [Label.reader .next], l = .reader .next ∨ ∃ (i : Nat) (m : InboundMessage) (k : Nat),
      l = .receive i .next ∧ s.receives[i]? = some (.took m k) := fun l hl => .inl (List.mem_singleton.mp hl)
  cases hcl : s.inbound.channel.closed with
  | false =>
    have hsend := Mpsc.trySend_of_free hcl hfree ⟨d, k⟩
    have hst : step config s (.reader .next) = some { s.readerAt .top with
        inbound.channel := { s.inbound.channel with
          free := s.inbound.channel.free - 1
          queue := s.inbound.channel.queue ++ [⟨d, k⟩] } } := by
      simp only [step, hloc, readerStep, hsend]
    refine ⟨_, _, hown, by rw [Lts.run_cons, hst]; rfl, .inl ⟨?_, rfl⟩⟩
    dsimp only
    rw [hq, hk]
    rfl
  | true =>
    have hsend := Mpsc.trySend_of_closed hcl (⟨d, k⟩ : InboundEnvelope)
    have hst : step config s (.reader .next) = some { s.readerAt .ended with
        inbound.budget := s.inbound.budget + k } := by
      simp only [step, hloc, readerStep, hsend]
    exact ⟨_, _, hown, by rw [Lts.run_cons, hst]; rfl, .inr ⟨hcl, rfl⟩⟩

/-- A step of the tasks towards it. -/
theorem Unblocked.cons {d : InboundMessage} (hl : l = .reader .next ∨ ∃ (i : Nat) (m : InboundMessage) (k : Nat),
      l = .receive i .next ∧ s.receives[i]? = some (.took m k)) (hst : step config s l = some s')
    (hrec : ∀ (i : Nat) m k, s'.receives[i]? = some (.took m k) → s.receives[i]? = some (.took m k))
    (hcl : s'.inbound.channel.closed = s.inbound.channel.closed) (h : Unblocked config s' d) :
    Unblocked config s d := by
  obtain ⟨ls, t, hls, hrun, ht⟩ := h
  refine ⟨l :: ls, t, fun x hx => ?_, ?_, hcl ▸ ht⟩
  · rcases List.mem_cons.mp hx with rfl | hx
    · exact hl
    · exact (hls x hx).imp_right fun ⟨i, m, k, hi, hm⟩ => ⟨i, m, k, hi, hrec i m k hm⟩
  · rw [Lts.run_cons, hst]; exact hrun

/-- With the permits of an empty channel back, the reader takes its own and sends. -/
theorem asking_unblocked {bits : Nat} (hcfg : config.Accepted bits) (h : Stock config s)
    (hq : s.inbound.channel.queue = []) (hw : Pool.weigh ReceiveLoc.bytes s.receives = 0)
    (hask : s.reader.loc.asking = true) : ∃ d, s.reader.loc.pending = [d] ∧ Unblocked config s d := by
  have hslots := h.slots
  have hpos := hcfg.queue_pos
  simp only [Mpsc.load, hq, List.length_nil] at hslots
  have hr := h.reader
  cases hloc : s.reader.loc with
  | send d k =>
    rw [hloc] at hr
    exact ⟨d, rfl, send_unblocked hloc hr.1 hq (by omega)⟩
  | acquire payload =>
    rw [hloc] at hr
    obtain ⟨⟨d, hd⟩, hlen⟩ := hr
    have hbytes := h.bytes
    simp only [hq, hw, hloc, ReaderLoc.held, Pool.weigh_nil] at hbytes
    have hle : payload.len ≤ s.inbound.budget := by
      have := hcfg.message_le
      omega
    have hst : step config s (.reader .next) = some { s.readerAt (.send d payload.len) with
        inbound.budget := s.inbound.budget - payload.len } := by
      simp only [step, hloc, readerStep, hle, if_true, hd]
      rfl
    have hfree : 0 < s.inbound.channel.free := by omega
    have hsend : Unblocked config { s.readerAt (.send d payload.len) with
        inbound.budget := s.inbound.budget - payload.len } d :=
      send_unblocked rfl (InboundMessage.len_of_ofMessage hd).symm hq hfree
    exact ⟨d, by rw [ReaderLoc.pending, hd]; rfl, hsend.cons (.inl rfl) hst (fun _ _ _ => id) rfl⟩
  | _ => rw [hloc] at hask; cases hask

theorem ReceiveLoc.bytes_of_inactive (l : ReceiveLoc) (h : l.active = 0) : l.bytes = 0 := by
  cases l <;> first | rfl | cases h

/-- **A reader before an empty channel is not held up.** -/
theorem empty_unblocked {bits : Nat} (hcfg : config.Accepted bits) (h : Stock config s) (hslot : Slot s)
    (hq : s.inbound.channel.queue = []) (hask : s.reader.loc.asking = true) :
    ∃ d, s.reader.loc.pending = [d] ∧ Unblocked config s d := by
  by_cases hw : Pool.weigh ReceiveLoc.bytes s.receives = 0
  · exact asking_unblocked hcfg h hq hw hask
  · -- one `receive` has taken a message and not yet dropped its permits
    obtain ⟨loc, hmem, hne⟩ : ∃ loc ∈ s.receives, loc.bytes ≠ 0 := by
      by_contra hno
      exact hw (Pool.weigh_eq_zero fun x hx => by_contra fun hx' => hno ⟨x, hx, hx'⟩)
    obtain ⟨i, hi⟩ := List.mem_iff_getElem?.mp hmem
    cases loc with
    | took m k =>
      have hst : step config s (.receive i .next) = some { s.receiveAt i (.finish (.ok m)) with
          inbound.budget := s.inbound.budget + k } := by
        simp only [step, hi, Option.bind_some, receiveStep]
      have hs' := stock_step h rfl hst
      have hact := Pool.weigh_le_of_get (f := ReceiveLoc.active) hi
      have htop := s.inbound.receiveActive.toNat_le
      have hsum := Pool.weigh_of_weigh ReceiveLoc.bytes_of_inactive hi (by
        have := hslot.active
        simp only [ReceiveLoc.active] at hact ⊢
        omega)
      have hset := Pool.weigh_set (f := ReceiveLoc.bytes) hi (.finish (.ok m))
      obtain ⟨d, hd, hun⟩ := asking_unblocked hcfg hs' hq
        (by simp only [St.receiveAt, ReceiveLoc.bytes] at hset hsum ⊢; omega) hask
      refine ⟨d, hd, .cons (.inr ⟨i, m, k, rfl, hi⟩) hst (fun j m' k' hj => ?_) rfl hun⟩
      rcases Pool.get_set hj with hj | ⟨-, hj⟩
      · exact hj
      · cases hj
    | _ => exact absurd rfl hne

/-! ## The result -/

/-- The bytes of the queued messages. -/
def St.queuedBytes (s : St) : Nat := (s.inbound.channel.queue.map (·.message.len)).sum

/-- The bytes of the message the reader holds, with or without its permits. -/
def St.pendingBytes (s : St) : Nat := (s.reader.loc.pending.map InboundMessage.len).sum

structure InboundBounded (config : ConnectionConfig) (s : St) : Prop where
  /-- Every byte permit is free, or with a message: at the reader, queued, or just taken by `receive`. -/
  conserved : s.inbound.budget + s.reader.loc.held + s.queuedBytes +
    Pool.weigh ReceiveLoc.bytes s.receives = config.maxBufferedBytes
  /-- The permits in the reader's hand are those of the message there. -/
  held : ∀ m k, s.reader.loc = .send m k → k = m.len
  bytes : s.queuedBytes + s.reader.loc.held ≤ config.maxBufferedBytes
  items : s.inbound.channel.queue.length ≤ config.maxQueue
  /-- The reader holds one message beyond the queue, at most. -/
  one : s.reader.loc.pending.length ≤ 1
  total : s.queuedBytes + s.pendingBytes ≤ config.maxBufferedBytes + config.maxMessageSize
  /-- `u32::try_from(payload.len())` succeeds. -/
  converts : ∀ payload, s.reader.loc = .queue payload → payload.len ≤ u32Max
  /-- A drained queue unblocks the reader. -/
  unblocked : s.inbound.channel.queue = [] → s.reader.loc.asking = true →
    ∃ d, s.reader.loc.pending = [d] ∧ Unblocked config s d

theorem Stock.queuedBytes (h : Stock config s) :
    s.queuedBytes = Pool.weigh InboundEnvelope.permit s.inbound.channel.queue := by
  rw [St.queuedBytes, Pool.weigh, List.map_congr_left fun e he => (h.queue e he).symm]

theorem ReaderLoc.pending_length (loc : ReaderLoc) : loc.pending.length ≤ 1 := by
  cases loc with
  | queue payload | acquire payload =>
    simp only [ReaderLoc.pending]
    cases InboundMessage.ofMessage payload <;> simp
  | _ => simp [ReaderLoc.pending]

/-- Beyond its permits, the reader holds at most one message of the largest size. -/
theorem Stock.pendingBytes (h : Stock config s) :
    s.pendingBytes ≤ s.reader.loc.held + config.maxMessageSize := by
  have hr := h.reader
  unfold St.pendingBytes
  cases hloc : s.reader.loc with
  | queue payload | acquire payload =>
    rw [hloc] at hr
    obtain ⟨⟨d, hd⟩, hlen⟩ := hr
    have := InboundMessage.len_of_ofMessage hd
    simp only [ReaderLoc.pending, hd, Option.toList_some, List.map_cons, List.map_nil, List.sum_cons,
      List.sum_nil]
    omega
  | send message permit =>
    rw [hloc] at hr
    have := hr.1
    simp only [ReaderLoc.pending, ReaderLoc.held, List.map_cons, List.map_nil, List.sum_cons, List.sum_nil]
    omega
  | _ => simp [ReaderLoc.pending]

/-- **Inbound buffering is bounded, and a reader before an empty queue is never held up.** -/
theorem inbound_bounded {bits : Nat} (ls : List Label) (hcfg : config.Accepted bits)
    (h : Lts.run (step config) (start config) ls = some s) (hfit : ∀ l ∈ ls, l.fits config = true) :
    InboundBounded config s := by
  have hst := stock_run h hfit
  have hslot := (delivery_reachable ⟨ls, h⟩).slot
  have hbytes := hst.bytes
  have hslots := hst.slots
  have hqueued := hst.queuedBytes
  have hpending := hst.pendingBytes
  simp only [Mpsc.load] at hslots
  constructor
  · omega
  · intro m k hloc
    have hr := hst.reader
    rw [hloc] at hr
    exact hr.1
  · omega
  · omega
  · exact s.reader.loc.pending_length
  · omega
  · intro payload hloc
    have hr := hst.reader
    rw [hloc] at hr
    exact Nat.le_trans hr.2 (Nat.le_trans hcfg.message_le hcfg.buffered_le)
  · exact empty_unblocked hcfg hst hslot

/-- One message is queued, and the reader waits with the next one for its permits. -/
def saturatedRun : List Label :=
  [.reader .next, .reader .next, .reader (.item (some (.ok (.binary [1, 2, 3])))), .reader .next,
    .reader .next, .reader .next, .reader .next, .reader (.item (some (.ok (.text "four")))), .reader .next]

theorem inbound_bounded_saturated :
    InboundBounded .tiny (Lts.after (step .tiny) (start .tiny) saturatedRun) ∧
      (Lts.after (step .tiny) (start .tiny) saturatedRun).queuedBytes = 3 ∧
      (Lts.after (step .tiny) (start .tiny) saturatedRun).pendingBytes = 4 := by
  have hcfg : ConnectionConfig.Accepted 64 .tiny := by constructor <;> decide
  exact ⟨inbound_bounded saturatedRun hcfg (Lts.run_after rfl) (by decide), rfl, rfl⟩

end FogWS
