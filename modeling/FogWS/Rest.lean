import FogWS.Inbound
import FogWS.Progress
import FogWS.Stranded
/-!
# The driver comes to rest

Left alone (no item from the peer, no call and no dropped future from the application), with a transport
that goes on taking or refusing what is written to it, the driver does finitely many steps. Where it stops,
nothing is left undone: either the connection is over, or it is open and idle, and everything that was
handed over has been sent and answered.

| here | there |
| --- | --- |
| `Label.unprompted` | the runtime's own steps and the results of `writer.send` and `writer.flush` |
| `St.sinks` | the results the writer may still ask the sink for |
| `AtRest` | an open connection with nothing to do |

The measure extends `St.fuel`: a result of the sink sends the writer back to its loop, and takes one of the
results that are still to come.
-/
namespace FogWS

/-- Steps that need no word from the peer and none from the application. -/
def Label.unprompted : Label → Bool
  | .writer .sinkOk | .writer (.sinkErr _) => true
  | l => l.internal

theorem Label.unprompted_of_internal {l : Label} (h : l.internal = true) : l.unprompted = true := by
  cases l with
  | writer a => cases a <;> first | exact h | rfl
  | _ => exact h

/-! ## How many results of the sink are left -/

/-- The results the writer may ask the sink for from a location, before it takes anything from a queue;
one more if it has just taken something. -/
def WriterLoc.sinks : WriterLoc → Nat
  | .flushStart | .flush | .sendStart _ | .send _ => 3
  | .unstarted | .select | .events | .onShutdown | .answer _ | .release _ | .closeSend => 2
  | .handshake _ | .closeSignal | .closeFlush => 1
  | _ => 0

/-- The flush request the reader is about to make. -/
def ReaderLoc.flushes : ReaderLoc → Nat
  | .control => 1
  | _ => 0

/-- The command a send may still hand over. -/
def SendLoc.commands : SendLoc → Nat
  | .start _ | .acquire _ | .reserve _ | .admitted _ => 1
  | _ => 0

def St.sinks (s : St) : Nat :=
  s.writer.loc.sinks + s.control.queue.length + s.outbound.channel.queue.length + s.reader.loc.flushes +
    Pool.weigh SendLoc.commands s.sends

/-- The unprompted steps left. -/
def St.work (s : St) : Nat := s.fuel + 20 * s.sinks

section Steps

variable {config : ConnectionConfig} {s s' : St}

theorem ReaderLoc.flushes_conclude (t : DriverError) : (ReaderLoc.conclude t).flushes = 0 := by
  unfold ReaderLoc.conclude
  split <;> rfl

theorem readerStep_sinks {loc : ReaderLoc} {a : ReaderAct} (ha : ∀ i, a ≠ .item i)
    (h : readerStep s loc a = some s') :
    s'.control.queue.length + s'.reader.loc.flushes ≤ s.control.queue.length + loc.flushes := by
  cases readerStep_rule h with
  | streamEnd | streamError | text | binary | closeFrame | ping | pong | frame => exact absurd rfl (ha _)
  | control =>
    cases hsend : s.control.trySend .flush with
    | ok control =>
      obtain ⟨-, -, rfl⟩ := Mpsc.trySend_ok hsend
      simp [St.readerAt, ReaderLoc.flushes]
    | error => simp [St.readerAt, ReaderLoc.flushes]
  | errTaken | ended => simp only [St.readerAt, ReaderLoc.flushes_conclude]; omega
  | kill => exact Nat.le_add_right _ _
  | _ => simp [St.readerAt, dropReader, ReaderLoc.flushes]

/-- A result of the sink is taken off those that are left, and the writer goes on from there. -/
structure SinkMove (s s' : St) (loc : WriterLoc) : Prop where
  sinks : s'.writer.loc.sinks < loc.sinks
  fuel : s'.writer.loc.fuel ≤ loc.fuel + 11
  guards : s'.writer.loc.guards = loc.guards
  seen : s'.writer.seen = s.writer.seen
  cells : s'.cells = s.cells
  control : s'.control = s.control
  outbound : s'.outbound = s.outbound

theorem writerStep_sink {loc : WriterLoc} {a : WriterAct} (ha : (Label.writer a).internal = false)
    (h : writerStep s loc a = some s') : SinkMove s s' loc := by
  cases writerStep_rule h with
  | closeSent =>
    refine ⟨by simp [WriterLoc.sinks, St.writerAt], ?_, rfl, rfl, rfl, rfl, rfl⟩
    simp only [St.writerAt, WriterLoc.fuel, Wait.fuel]
    omega
  | flushed | flushFailed | sent | sendFailed | closeSendFailed | closeFlushed | closeFlushFailed =>
    refine ⟨?_, ?_, rfl, rfl, rfl, rfl, rfl⟩ <;> simp [WriterLoc.sinks, WriterLoc.fuel, St.writerAt]
  | _ => cases ha

/-- No other step of the writer adds to them: what it takes from a queue it takes off the queue. -/
theorem writerStep_sinks {loc : WriterLoc} {a : WriterAct} (ha : (Label.writer a).internal = true)
    (h : writerStep s loc a = some s') :
    s'.writer.loc.sinks + s'.control.queue.length + s'.outbound.channel.queue.length ≤
      loc.sinks + s.control.queue.length + s.outbound.channel.queue.length := by
  cases writerStep_rule h with
  | takeFlush control hrecv =>
    have hq := (Mpsc.recv_some hrecv).1
    simp only [St.writerAt, WriterLoc.sinks, hq, List.length_cons]
    omega
  | takeCommand command channel hrecv =>
    have hq := (Mpsc.recv_some hrecv).1
    simp only [St.writerAt, WriterLoc.sinks, hq, List.length_cons]
    omega
  | flushed | flushFailed | sent | sendFailed | closeSent | closeSendFailed | closeFlushed
  | closeFlushFailed => cases ha
  | leave | kill =>
    simp only [dropWriter, Mpsc.dropReceiver, WriterLoc.sinks, List.length_nil]
    omega
  | _ => simp [St.writerAt, writerChanged, Outbound.respond, WriterLoc.sinks]

theorem sendStep_sinks {i : Nat} {loc : SendLoc} {a : SendAct} (h : sendStep config s i loc a = some s') :
    ∃ loc', s'.sends = s.sends.set i loc' ∧
      s'.outbound.channel.queue.length + loc'.commands ≤ s.outbound.channel.queue.length + loc.commands := by
  cases sendStep_rule h with
  | handOver m => exact ⟨_, rfl, by simp [SendLoc.commands, Mpsc.push]⟩
  | reserve _ _ hc =>
    obtain ⟨-, -, rfl⟩ := Mpsc.tryReserve_ok hc
    exact ⟨_, rfl, Nat.le_refl _⟩
  | _ => exact ⟨_, rfl, by simp [SendLoc.commands, Mpsc.release, St.sendAt]⟩

end Steps

variable {config : ConnectionConfig} {s s' : St} {l : Label} {i : Nat}

theorem sinks_step (hint : l.internal = true) (hst : step config s l = some s') : s'.sinks ≤ s.sinks := by
  cases step_move hst with
  | reader f hst =>
    have := readerStep_sinks (fun i hi => by subst hi; cases hint) hst
    simp only [St.sinks, f.writer, f.outbound, f.sends]
    omega
  | writer f hst =>
    have := writerStep_sinks hint hst
    simp only [St.sinks, f.reader, f.sends]
    omega
  | control f => simp only [St.sinks, f.writer, f.control, f.outbound, f.reader, f.sends, Nat.le_refl]
  | receive f => simp only [St.sinks, f.writer, f.control, f.outbound, f.reader, f.sends, Nat.le_refl]
  | send f hloc hst =>
    obtain ⟨loc', hset, hle⟩ := sendStep_sinks hst
    have := Pool.weigh_set (f := SendLoc.commands) hloc loc'
    simp only [St.sinks, f.writer, f.control, f.reader, hset]
    omega
  | dropFields =>
    simp only [St.sinks, dropFields]
    split
    · simp only [Mpsc.dropReceiver, List.length_nil]; omega
    · exact Nat.le_refl _
  | callAdmit | callReceive | dropDriver => cases hint

/-- **Every unprompted step lowers the work left.** -/
theorem work_step (hl : Lifecycle s) (hg : Guards s) (hun : l.unprompted = true)
    (hst : step config s l = some s') : s'.work < s.work := by
  cases hint : l.internal with
  | true =>
    have := fuel_step hl hg hint hst
    have := sinks_step hint hst
    simp only [St.work]
    omega
  | false =>
    obtain ⟨a, rfl⟩ : ∃ a, l = .writer a := by
      cases l with
      | writer a => exact ⟨a, rfl⟩
      | _ => exact absurd (hint.symm.trans hun) Bool.false_ne_true
    have f := writerStep_frame hst
    have m := writerStep_sink hint hst
    have hb : s'.bound = s.bound := by
      simp only [St.bound, m.cells, m.guards, f.reader, f.watchdogs, f.closes]
    have := m.sinks
    have := m.fuel
    simp only [St.work, St.fuel, St.sinks, Writer.fuel, hb, m.seen, m.control, m.outbound, f.reader,
      f.watchdogs, f.closes, f.aborts, f.sends, f.receives, f.driver]
    omega

/-! ## Every send and close that is left -/

/-- A send that waits for its answer has handed its command over. -/
def Posted (s : St) : Prop := ∀ i, s.sends[i]? = some .response →
  s.outbound.responses i ≠ .unsent ∧ ∃ c ∈ s.hist.handed, c.id = i

theorem Response.ne_unsent_of_settled {r : Response} (h : r.settled = true) : r ≠ .unsent := by
  rintro rfl; cases h

theorem step_responses (hst : step config s l = some s') (h : s.outbound.responses i ≠ .unsent) :
    s'.outbound.responses i ≠ .unsent := by
  cases step_move hst with
  | reader f | control f | receive f => rw [f.outbound]; exact h
  | writer _ hst =>
    rcases (writerStep_move hst).settles i with hr | hr
    · rw [hr]; exact h
    · exact Response.ne_unsent_of_settled hr
  | send _ _ hst =>
    rcases sendStep_move hst with ⟨m, -, -, rfl⟩ | ⟨loc', -, q⟩
    · simp only [handOver, Outbound.respond, Function.update_apply]
      split
      · rintro ⟨⟩
      · exact h
    · rw [q.responses]; exact h
  | callAdmit | callReceive | dropDriver => exact h
  | dropFields =>
    simp only [dropFields]
    split
    · rcases Outbound.discard_cases s.outbound s.outbound.channel.queue i with hr | hr
      · exact fun hu => h (hr ▸ hu)
      · exact fun hu => by cases hr.symm.trans hu
    · exact h

theorem posted_step (h : Posted s) (hst : step config s l = some s') : Posted s' := by
  intro i hi
  have hhanded : ∀ c ∈ s.hist.handed, c ∈ s'.hist.handed := by
    rcases step_handed hst with heq | ⟨j, m, -, -, rfl⟩
    · rw [heq]; exact fun _ => id
    · exact fun _ => List.mem_append_left _
  have hkeep : s.sends[i]? = some .response →
      s'.outbound.responses i ≠ .unsent ∧ ∃ c ∈ s'.hist.handed, c.id = i := fun hi =>
    have ⟨hu, c, hc, hci⟩ := h i hi
    ⟨step_responses hst hu, c, hhanded c hc, hci⟩
  cases hown : l.ofSend i with
  | false =>
    rcases sendLoc_other hown hst with heq | ⟨-, n, heq⟩
    · exact hkeep (heq ▸ hi)
    · cases heq.symm.trans hi
  | true =>
    obtain ⟨loc, hloc, -⟩ := sendLoc_own hown hst
    obtain ⟨a, rfl, hstep⟩ := step_own hown hloc hst
    have hlen := (List.getElem?_eq_some_iff.mp hloc).1
    cases sendStep_rule hstep with
    | handOver m => exact ⟨by simp [Outbound.respond], ⟨i, m, m.len⟩, by simp, rfl⟩
    | _ => simp [St.sendAt, hlen] at hi

theorem posted_reachable (h : Reachable config s) : Posted s :=
  h.invariant (P := Posted) (fun _ hi => by cases hi) fun _ _ _ => posted_step

/-- An ended writer stays ended. -/
theorem done_step (hd : s.writer.loc.isDone = true) (hst : step config s l = some s') :
    s'.writer.loc.isDone = true := by
  cases step_move hst with
  | writer _ hst => exact (writerStep_done hd hst).1
  | reader f | control f | send f | receive f => rw [f.writer]; exact hd
  | _ => exact hd

/-- While the writer lives, every command handed over is in its sight. -/
theorem awaited_of_live (h : Reachable config s) (hlive : s.writer.loc.isDone = false) : Awaited s := by
  refine (h.invariant (P := fun s => (Lifecycle s ∧ Discipline s) ∧ (s.writer.loc.isDone = false → Awaited s))
    ⟨⟨lifecycle_start config, discipline_start config⟩, fun _ => awaited_start config⟩ ?_).2 hlive
  rintro s l t ⟨⟨hl, hd⟩, ha⟩ hst
  refine ⟨⟨(lifecycle_step hl hst).1, discipline_step hl hd hst⟩, fun hlive => ?_⟩
  have hbefore : s.writer.loc.isDone = false := by
    cases hdone : s.writer.loc.isDone with
    | false => rfl
    | true =>
      have hdone' := done_step hdone hst
      rw [hlive] at hdone'; cases hdone'
  exact awaited_step hd (ha hbefore) (fun _ _ _ _ => hbefore) hst

/-- The close has swapped the closing flag, and does not yet wait for the tasks. -/
def CloseLoc.swapped : CloseLoc → Bool
  | .transition | .signal | .arm | .spawn | .earlyReturn | .subscribe | .waitState _ => true
  | _ => false

/-- A close that has swapped the flag has set it. -/
def Flagged (s : St) : Prop := ∀ l ∈ s.closes, l.swapped = true → s.cells.closing = true

theorem closeStep_flagged {loc : CloseLoc} {a : CallAct} (h : closeStep s i loc a = some s') :
    ∃ loc', s'.closes = s.closes.set i loc' ∧
      (loc'.swapped = true → loc.swapped = true ∨ s'.cells.closing = true) := by
  cases closeStep_rule h with
  | swap | swapAgain => exact ⟨_, rfl, fun _ => .inr rfl⟩
  | transition | transitionLate | signal | armAgain | arm | spawn | earlyReturn | subscribe | waitState =>
    exact ⟨_, rfl, fun _ => .inl rfl⟩
  | _ => exact ⟨_, rfl, by rintro ⟨⟩⟩

theorem flagged_step (hl : Lifecycle s) (h : Flagged s) (hst : step config s l = some s') : Flagged s' := by
  have he := (lifecycle_step hl hst).2
  have hsame : s'.closes = s.closes → Flagged s' := fun hcl x hx hsw =>
    he.closing (h x (hcl ▸ hx) hsw)
  cases step_move hst with
  | reader f | writer f | send f | receive f => exact hsame f.closes
  | control _ m =>
    cases m with
    | watchdog _ _ hcl | abort _ _ hcl => exact hsame hcl
    | close hloc hst =>
      obtain ⟨loc', hset, hsw⟩ := closeStep_flagged hst
      intro x hx hs
      rw [hset] at hx
      rcases List.mem_or_eq_of_mem_set hx with hx | rfl
      · exact he.closing (h x hx hs)
      · exact (hsw hs).elim (fun hs => he.closing (h _ (List.mem_of_getElem? hloc) hs)) id
    | callClose =>
      intro x hx hs
      rcases List.mem_append.mp hx with hx | hx
      · exact h x hx hs
      · rw [List.mem_singleton.mp hx] at hs; cases hs
    | callAbort => exact hsame rfl
  | callAdmit | callReceive | dropDriver | dropFields => exact hsame rfl

theorem flagged_reachable (h : Reachable config s) : Flagged s :=
  (h.invariant (P := fun s => Lifecycle s ∧ Flagged s) ⟨lifecycle_start config, List.forall_mem_nil _⟩
    fun _ _ _ hP hst => ⟨(lifecycle_step hP.1 hst).1, flagged_step hP.1 hP.2 hst⟩).2

/-! ## Where nothing is left to do -/

/-- An open connection that waits for the peer or for the application. -/
structure AtRest (s : St) : Prop where
  /-- Nothing is left of what was to be sent: every command has been written, and every send answered. -/
  writer : s.writer.loc = .events
  control : s.control.queue = []
  outbound : s.outbound.channel.queue = []
  succeeded : s.hist.succeeded = s.hist.handed
  sends : ∀ l ∈ s.sends, l.isOver = true
  /-- The reader waits for the peer, or the application for which there are messages. -/
  reader : s.reader.loc = .select ∨ s.reader.loc.asking = true ∧ s.inbound.channel.queue ≠ []
  /-- Nothing that was read is missing. -/
  read : s.hist.returned ++ s.inbound.channel.queue.map (·.message) ++ s.reader.loc.pending = s.hist.read
  /-- A call of `receive` only waits where there is nothing to receive. -/
  receives : ∀ l ∈ s.receives, l.isOver = true ∨
    l = .recv ∧ s.inbound.channel.queue = [] ∧ s.reader.loc = .select
  closes : ∀ l ∈ s.closes, l.isOver = true
  aborts : s.aborts = []
  watchdogs : s.watchdogs = []

/-- A connection that is over, with nobody waiting but for the sends that nobody can answer. -/
structure AtEnd (s : St) : Prop where
  ended : Over s
  receives : ∀ l ∈ s.receives, l.isOver = true
  sends : ∀ i l, s.sends[i]? = some l → l.isOver = true ∨ Stranded s i

theorem ReaderLoc.leaving_of_asking {loc : ReaderLoc} (h : loc.asking = true) : loc.leaving = false := by
  cases loc <;> first | rfl | cases h

theorem running_of_opened (hr : Reachable config s) (hopen : s.cells.state.value = .opened) :
    s.cells.shutdown.value = .running := by
  have hle := (lifecycle_reachable hr).cells.signal_le
  rw [hopen] at hle
  exact ShutdownSignal.rank_eq_zero.mp (Nat.le_zero.mp hle)

section Quiet

variable (h : ∀ l, l.unprompted = true → step config s l = none)
include h

theorem stuck_of_quiet : ∀ l, l.core = true → step config s l = none :=
  fun l hl => h l (Label.unprompted_of_internal (Label.internal_of_core hl))

/-- A writer without a step waits for a new signal, or has ended. -/
theorem writer_of_quiet : s.writer.loc = .finished ∨
    s.writer.loc = .events ∧ s.control.queue = [] ∧ s.outbound.channel.queue = [] ∨
      ∃ seen, s.writer.loc = .handshake (.changed seen) := by
  rcases writer_of_stuck (stuck_of_quiet h) with hf | ⟨-, hne⟩
  · exact .inl hf
  · have hn := h (.writer .next) rfl
    have hc := h (.writer .control) rfl
    have ho := h (.writer .outbound) rfl
    have hk := h (.writer .sinkOk) rfl
    simp only [step] at hn hc ho hk
    cases hloc : s.writer.loc with
    | events =>
      rw [hloc] at hc ho
      refine .inr (.inl ⟨rfl, Mpsc.recv_eq_none.mp ?_, Mpsc.recv_eq_none.mp ?_⟩)
      · cases hr : s.control.recv with
        | none => rfl
        | some p => simp [writerStep, hr] at hc
      · cases hr : s.outbound.channel.recv with
        | none => rfl
        | some p => simp [writerStep, hr] at ho
    | handshake w =>
      rw [hloc] at hn
      cases w with
      | check => simp only [writerStep, Wait.step] at hn; split at hn <;> simp_all
      | changed seen => exact .inr (.inr ⟨seen, rfl⟩)
    | flush | send | closeSend | closeFlush => rw [hloc] at hk; cases hk
    | finished => exact .inl rfl
    | _ => rw [hloc] at hn; cases hn

/-- A send without a step is over, or waits for its answer. -/
theorem send_of_quiet {loc : SendLoc} (hloc : s.sends[i]? = some loc) : loc.isOver = true ∨
    loc = .response ∧ (s.outbound.responses i).settled = false := by
  have hn := h (.send i .next) rfl
  have hm := h (.send i (.handOver (.text ""))) rfl
  simp only [step, hloc, Option.bind_some] at hn hm
  cases loc with
  | refused | mismatched | returned | dropped => exact .inl rfl
  | response =>
    refine .inr ⟨rfl, ?_⟩
    cases hr : s.outbound.responses i with
    | unsent | pending => rfl
    | answered | dropped => simp [sendStep, hr] at hn
  | admitted size =>
    simp only [sendStep] at hm
    split at hm <;> cases hm
  | _ => cases hn

/-- A `receive` without a step is over, or waits before an empty channel whose reader lives. -/
theorem receive_of_quiet (hslot : Slot s) : ∀ l ∈ s.receives, l.isOver = true ∨
    l = .recv ∧ s.inbound.channel.queue = [] ∧ s.reader.loc.isDone = false := by
  intro l hmem
  obtain ⟨i, hloc⟩ := List.mem_iff_getElem?.mp hmem
  have hn := h (.receive i .next) rfl
  simp only [step, hloc, Option.bind_some] at hn
  cases l with
  | returned | dropped => exact .inl rfl
  | lock =>
    -- nobody else holds the lock while this call holds the slot
    have hle := Pool.weigh_le_of_get (f := ReceiveLoc.active) hloc
    have hact := hslot.active
    have htop := s.inbound.receiveActive.toNat_le
    have h0 := Pool.weigh_of_weigh (f := ReceiveLoc.active) (g := ReceiveLoc.locks)
      (fun x hx => by cases x <;> first | rfl | cases hx) hloc
      (by simp only [ReceiveLoc.active] at hle ⊢; omega)
    rw [hslot.locks] at h0
    have hfree : s.inbound.locked = false := Bool.toNat_eq_zero.mp h0
    simp [receiveStep, hfree] at hn
  | recv =>
    simp only [receiveStep] at hn
    split at hn
    · cases hn
    · rename_i hr
      exact .inr ⟨rfl, Mpsc.recv_eq_none.mp hr, by simpa using hn⟩
  | _ => cases hn

/-- No message is in the hands of a `receive`. -/
theorem hand_of_quiet (hslot : Slot s) : s.hand = [] := by
  refine List.flatMap_eq_nil_iff.mpr fun x hx => ?_
  rcases receive_of_quiet h hslot x hx with ho | ⟨rfl, -⟩
  · cases x <;> first | rfl | cases ho
  · rfl

theorem atEnd_of_quiet (hr : Reachable config s)
    (hbegun : s.cells.closing = true ∨ s.cells.state.value ≠ .opened) : AtEnd s := by
  have hover := over_of_stuck (stuck_of_quiet h) (supervised_reachable hr) hbegun
  refine ⟨hover, fun l hl => ?_, fun i l hl => ?_⟩
  · rcases receive_of_quiet h (delivery_reachable hr).slot l hl with ho | ⟨-, -, hlive⟩
    · exact ho
    · rw [hover.reader] at hlive; cases hlive
  · rcases send_of_quiet h hl with ho | ⟨rfl, hun⟩
    · exact .inl ho
    · refine .inr ⟨by rw [hover.writer]; rfl, hl, ?_⟩
      cases hresp : s.outbound.responses i with
      | pending => rfl
      | unsent => exact absurd hresp (posted_reachable hr i hl).1
      | answered | dropped => rw [hresp] at hun; cases hun

/-! ### On an open connection -/

section Open

variable (hr : Reachable config s) (hopen : s.cells.state.value = .opened)
include hr hopen

/-- The writer has not ended, so it waits for something to write. -/
theorem writer_of_open :
    s.writer.loc = .events ∧ s.control.queue = [] ∧ s.outbound.channel.queue = [] := by
  have hok := (lifecycle_reachable hr).writer.2
  rcases writer_of_quiet h with hf | he | ⟨seen, hf⟩
  · rw [hf] at hok; simp [WriterLoc.Ok, hopen, DriverState.rank] at hok
  · exact he
  · rw [hf] at hok; simp [WriterLoc.Ok, running_of_opened hr hopen, ShutdownSignal.rank] at hok

/-- The reader has not ended, so it waits for the peer, or for room. -/
theorem reader_of_open : s.reader.loc = .select ∨ s.reader.loc.asking = true := by
  have hok := (lifecycle_reachable hr).reader.2
  rcases reader_of_stuck (stuck_of_quiet h) with hf | ⟨-, -, he | ⟨p, he⟩ | ⟨m, k, he⟩⟩
  · rw [hf] at hok; simp [ReaderLoc.Ok, hopen, DriverState.rank] at hok
  · exact .inl he
  all_goals exact .inr (by rw [he]; rfl)

/-- Every command has been written. -/
theorem written_of_open : s.hist.succeeded = s.hist.handed := by
  obtain ⟨hw, -, hoq⟩ := writer_of_open h hr hopen
  obtain ⟨horder, hlast, -⟩ := (discipline_reachable hr).running hw rfl
  rw [horder, hlast, hoq]
  simp [WriterLoc.upcoming, WriterLoc.unfinished]

/-- Every send has been answered: the command of one that waits would be in sight of the writer. -/
theorem sends_of_open : ∀ l ∈ s.sends, l.isOver = true := by
  intro l hmem
  obtain ⟨hw, -, hoq⟩ := writer_of_open h hr hopen
  have hlive : s.writer.loc.isDone = false := by rw [hw]; rfl
  obtain ⟨i, hloc⟩ := List.mem_iff_getElem?.mp hmem
  rcases send_of_quiet h hloc with ho | ⟨rfl, hun⟩
  · exact ho
  · obtain ⟨c, hc, rfl⟩ := (posted_reachable hr i hloc).2
    rcases (awaited_of_live hr hlive).sight c hc with hs | ⟨-, hheld⟩
    · rw [hun] at hs; cases hs
    · simp [St.held, hw, hoq, WriterLoc.inFlight] at hheld

/-- Nothing that was read is missing. -/
theorem read_of_open :
    s.hist.returned ++ s.inbound.channel.queue.map (·.message) ++ s.reader.loc.pending = s.hist.read := by
  have hd := delivery_reachable hr
  have hrun := running_of_opened hr hopen
  have ho : s.delivered ++ s.reader.loc.pending = s.hist.read := by
    rcases hd.order with ho | ⟨-, hc | hlv | ⟨hne, -⟩⟩
    · exact ho
    · rw [hd.closed hc] at hrun; cases hrun
    · rcases reader_of_open h hr hopen with he | he
      · rw [he] at hlv; cases hlv
      · rw [ReaderLoc.leaving_of_asking he] at hlv; cases hlv
    · exact absurd hrun hne
  rw [← ho, St.delivered, hand_of_quiet h hd.slot, List.append_nil]

/-- A close that waits has set the flag, or the connection is over. -/
theorem closes_of_open (hflag : s.cells.closing = false) : ∀ l ∈ s.closes, l.isOver = true := by
  intro l hmem
  obtain ⟨i, hi⟩ := List.mem_iff_getElem?.mp hmem
  have hok := (lifecycle_reachable hr).closes l hmem
  have hn := h (.close i .next) rfl
  simp only [step, hi, Option.bind_some] at hn
  cases l with
  | returned | dropped => rfl
  | waitState w => rw [flagged_reachable hr _ hmem rfl] at hflag; cases hflag
  | waitTasks e w =>
    have hclosed := hok.1
    rw [hopen] at hclosed; cases hclosed
  | _ => cases hn

/-- An abort would have closed the connection. -/
theorem aborts_of_open : s.aborts = [] := by
  refine List.eq_nil_iff_forall_not_mem.mpr fun a ha => ?_
  obtain rfl := abort_of_stuck (stuck_of_quiet h) a ha
  have hok := ((lifecycle_reachable hr).aborts _ ha).1
  rw [running_of_opened hr hopen] at hok
  exact absurd hok (by decide)

end Open

/-- A reader that waits for room has filled the channel. -/
theorem full_of_quiet {bits : Nat} (hcfg : config.Accepted bits) (hst : Stock config s) (hslot : Slot s)
    (hask : s.reader.loc.asking = true) : s.inbound.channel.queue ≠ [] := by
  intro hq
  obtain ⟨d, -, ls, t, hls, hpath, ht⟩ := empty_unblocked hcfg hst hslot hq hask
  cases ls with
  | nil =>
    cases hpath
    rcases ht with ⟨hq', -⟩ | ⟨-, he⟩
    · rw [hq] at hq'; cases hq'
    · rw [he] at hask; cases hask
  | cons x xs =>
    have hx : x.unprompted = true := by
      rcases hls x List.mem_cons_self with rfl | ⟨j, m, k, rfl, -⟩ <;> rfl
    rw [Lts.run_cons, h x hx] at hpath
    cases hpath

theorem atRest_of_quiet {bits : Nat} (hcfg : config.Accepted bits) (hr : Reachable config s)
    (hst : Stock config s) (hflag : s.cells.closing = false) (hopen : s.cells.state.value = .opened) :
    AtRest s := by
  have hslot := (delivery_reachable hr).slot
  obtain ⟨hw, hcq, hoq⟩ := writer_of_open h hr hopen
  have hreader := reader_of_open h hr hopen
  have hfull := full_of_quiet h hcfg hst hslot
  refine ⟨hw, hcq, hoq, written_of_open h hr hopen, sends_of_open h hr hopen,
    hreader.imp_right fun hask => ⟨hask, hfull hask⟩, read_of_open h hr hopen, fun x hx => ?_,
    closes_of_open h hr hopen hflag, aborts_of_open h hr hopen, ?_⟩
  · rcases receive_of_quiet h hslot x hx with ho | ⟨hloc, hq, -⟩
    · exact .inl ho
    · exact .inr ⟨hloc, hq, hreader.resolve_right fun hask => hfull hask hq⟩
  · have hnone := (guards_reachable hr).none hflag
    exact List.length_eq_zero_iff.mp (by omega)

end Quiet

/-! ## The result -/

/-- A run that needs no word from the peer and none from the application. -/
abbrev UnpromptedRun (config : ConnectionConfig) : St → List Label → St → Prop :=
  Lts.Path (step config) fun _ l => l.unprompted = true

structure ComesToRest (config : ConnectionConfig) (s : St) : Prop where
  /-- Every unprompted run is finite. -/
  finite : ∀ ls s', UnpromptedRun config s ls s' → ls.length ≤ s.work
  /-- Where it ends, an open connection on which nobody has begun to close is at rest, ... -/
  rests : ∀ ls s', UnpromptedRun config s ls s' → (∀ l, l.unprompted = true → step config s' l = none) →
    s'.cells.closing = false → s'.cells.state.value = .opened → AtRest s'
  /-- ... and any other connection is over. -/
  ends : ∀ ls s', UnpromptedRun config s ls s' → (∀ l, l.unprompted = true → step config s' l = none) →
    s'.cells.closing = true ∨ s'.cells.state.value ≠ .opened → AtEnd s'

theorem Label.fits_of_unprompted (h : l.unprompted = true) : l.fits config = true := by
  cases l with
  | reader a => cases a <;> first | rfl | cases h
  | _ => rfl

/-- **A driver left alone comes to rest, with nothing left undone.** -/
theorem comes_to_rest {bits : Nat} (ls : List Label) (hcfg : config.Accepted bits)
    (hrun : Lts.run (step config) (start config) ls = some s) (hfit : ∀ l ∈ ls, l.fits config = true) :
    ComesToRest config s := by
  have hreach : Reachable config s := ⟨ls, hrun⟩
  have hstock := stock_run hrun hfit
  refine ⟨fun ls s' hp => ?_, fun ls s' hp hq hflag hopen => ?_, fun ls s' hp hq hbegun => ?_⟩
  · have := hp.length_le (P := Supervised) St.work
      (fun _ _ _ hs hun hst => ⟨supervised_step hs hst, work_step hs.lifecycle hs.guards hun hst⟩)
      (supervised_reachable hreach)
    omega
  · refine atRest_of_quiet hq hcfg (hreach.trans hp) ?_ hflag hopen
    exact hp.invariant (P := Stock config)
      (fun _ _ _ hs hun hst => stock_step hs (Label.fits_of_unprompted hun) hst) hstock
  · exact atEnd_of_quiet hq (hreach.trans hp) hbegun

/-- A message is handed over while another one waits for a `receive`: both are still on their way. -/
def busyRun : List Label :=
  [.callAdmit 1, .send 0 .next, .send 0 .next, .send 0 .next, .send 0 (.handOver (.binary [7])),
    .reader .next, .reader .next, .reader (.item (some (.ok (.binary [1, 2])))), .callReceive]

theorem comes_to_rest_busy :
    ComesToRest .tiny (Lts.after (step .tiny) (start .tiny) busyRun) ∧
      (Lts.after (step .tiny) (start .tiny) busyRun).sinks = 3 :=
  have hcfg : ConnectionConfig.Accepted 64 .tiny := by constructor <;> decide
  ⟨comes_to_rest busyRun hcfg (Lts.run_after rfl) (by decide), rfl⟩

end FogWS
