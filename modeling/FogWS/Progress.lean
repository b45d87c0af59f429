import FogWS.Responsible
/-!
# Closing never hangs

Two facts make up the result. `fuel` bounds the steps the runtime can take by itself: every internal
step lowers it (`fuel_step`), so internal runs are finite. And a connection on its way down in which
no task, timer, close or abort has a step left is over (`over_of_stuck`): whoever is responsible for
the next thing to happen (`Responsible`) always stands at a location with a step.
-/
namespace FogWS

/-! ## How many steps are left -/

/-- Steps left at a location of the reader, but for those that mark a new version of the signal. -/
def ReaderLoc.fuel : ReaderLoc → Nat
  | .finished => 0
  | .returned => 1
  | .leave | .select => 2
  | .top | .finishAbort | .failureAbort => 3
  | .unstarted | .changed | .control | .failureSignal | .finishExpired _ => 4
  | .failure _ => 5
  | .finishWait _ wait => 5 + wait.fuel 3
  | .finishSubscribe _ => 13
  | .finishSignal _ => 14
  | .finish _ => 15
  | .closeMark _ _ | .errTaken _ | .ended => 16
  | .closeTaken _ | .send _ _ => 17
  | .acquire _ => 18
  | .queue _ => 19

/-- Every version of the signal can send the reader back to the head of its loop once. -/
def Reader.fuel (r : Reader) : Nat := 20 * (3 - r.seen) + r.loc.fuel

def WriterLoc.fuel : WriterLoc → Nat
  | .finished => 0
  | .returned => 1
  | .leave _ | .flush | .send _ | .closeSend | .closeFlush => 2
  | .failAnswer _ _ | .closePublish _ | .flushStart | .sendStart _ => 3
  | .failSignal _ _ | .closeOk => 4
  | .fail _ _ | .closeSignal => 5
  | .events => 6
  | .handshake wait => 6 + wait.fuel 3
  | .select => 7
  | .unstarted | .onShutdown | .release _ => 8
  | .answer _ => 9

def Writer.fuel (w : Writer) : Nat := 20 * (3 - w.seen) + w.loc.fuel

def WatchdogLoc.fuel : WatchdogLoc → Nat
  | .finished => 0
  | .returned => 1
  | .abortWriter => 2
  | .abortReader => 3
  | .expired => 4
  | .sleep wait => 5 + wait.fuel 3

/-- Steps left while `tasks_remaining` stays below version `bound`; the watchdog a close will spawn
is counted with it. -/
def CloseLoc.fuel (bound : Nat) : CloseLoc → Nat
  | .returned _ | .dropped => 0
  | .waitTasks _ wait => 1 + wait.fuel bound
  | .waitState wait => 2 * bound + 3 + wait.fuel 3
  | .subscribe => 2 * bound + 11
  | .earlyReturn => 2 * bound + 12
  | .spawn => 2 * bound + 25
  | .arm => 2 * bound + 26
  | .signal => 2 * bound + 27
  | .transition => 2 * bound + 28
  | .swap => 2 * bound + 29
  | .guard => 2 * bound + 30
  | .start => 2 * bound + 31

def AbortLoc.fuel : AbortLoc → Nat
  | .done => 0
  | .abortWriter => 1
  | .abortReader => 2
  | .signal => 3
  | .publish => 4
  | .store => 5

def SendLoc.fuel : SendLoc → Nat
  | .refused _ _ | .mismatched _ | .returned _ | .dropped => 0
  | .giveBack _ _ _ | .terminal => 1
  | .refuse _ | .response => 2
  | .admitted _ => 3
  | .reserve _ => 4
  | .acquire _ => 5
  | .start _ => 6

def ReceiveLoc.fuel : ReceiveLoc → Nat
  | .returned _ | .dropped => 0
  | .finish _ => 1
  | .took _ _ | .terminal => 2
  | .recv => 3
  | .lock => 4
  | .start => 5

def DriverLoc.fuel : DriverLoc → Nat
  | .dropping => 1
  | .alive | .dropped => 0

/-- The version `tasks_remaining` can still reach without new calls. -/
def St.bound (s : St) : Nat :=
  s.cells.tasksRemaining.version + s.reader.loc.guards + s.writer.loc.guards +
    Pool.weigh WatchdogLoc.guards s.watchdogs + Pool.weigh CloseLoc.changes s.closes

def St.fuel (s : St) : Nat :=
  s.reader.fuel + s.writer.fuel + Pool.weigh WatchdogLoc.fuel s.watchdogs +
    Pool.weigh (CloseLoc.fuel s.bound) s.closes + Pool.weigh AbortLoc.fuel s.aborts +
    Pool.weigh SendLoc.fuel s.sends + Pool.weigh ReceiveLoc.fuel s.receives + s.driver.fuel

theorem ReaderLoc.fuel_conclude (t : DriverError) : (ReaderLoc.conclude t).fuel ≤ 15 := by
  unfold ReaderLoc.conclude
  split <;> simp [ReaderLoc.fuel]

/-- The task of a location where it can be aborted has at least its return ahead. -/
theorem ReaderLoc.fuel_of_awaits {loc : ReaderLoc} (h : loc.awaits = true) : 1 < loc.fuel := by
  cases loc with
  | unstarted | select | acquire | send => simp [ReaderLoc.fuel]
  | finishWait => simp only [ReaderLoc.fuel]; omega
  | _ => cases h

theorem WriterLoc.fuel_of_awaits {loc : WriterLoc} (h : loc.awaits = true) : 1 < loc.fuel := by
  cases loc with
  | unstarted | events | flush | send | closeSend | closeFlush => simp [WriterLoc.fuel]
  | handshake => simp only [WriterLoc.fuel]; omega
  | _ => cases h

theorem CloseLoc.fuel_mono {b b' : Nat} (hb : b ≤ b') (l : CloseLoc) : l.fuel b ≤ l.fuel b' := by
  cases l with
  | waitTasks t w => exact Nat.add_le_add_left (Wait.fuel_mono hb w) 1
  | returned | dropped => exact Nat.le_refl _
  | _ => simp only [CloseLoc.fuel]; omega

section Steps

variable {config : ConnectionConfig} {s s' : St}

theorem Cells.Coherent.signal_version {c : Cells} (h : c.Coherent) : c.shutdown.version ≤ 3 :=
  Nat.le_trans h.signals.version_le (ShutdownSignal.rank_le _)

theorem Cells.Coherent.state_version {c : Cells} (h : c.Coherent) : c.state.version ≤ 3 :=
  Nat.le_trans h.states.version_le (DriverState.rank_le _)

theorem Reader.fuel_lt {loc loc' : ReaderLoc} {seen : Nat} (h : loc'.fuel < loc.fuel) :
    Reader.fuel ⟨loc', seen⟩ < 20 * (3 - seen) + loc.fuel :=
  Nat.add_lt_add_left h _

/-- Marking a new version pays for going back to any location. -/
theorem Reader.fuel_lt_of_seen {loc' : ReaderLoc} {seen seen' n : Nat} (hlt : seen < seen')
    (hle : seen' ≤ 3) (hloc : loc'.fuel < 20) : Reader.fuel ⟨loc', seen'⟩ < 20 * (3 - seen) + n := by
  simp only [Reader.fuel]
  omega

theorem readerStep_fuel {loc : ReaderLoc} {a : ReaderAct} (hc : s.cells.Coherent)
    (hloc : loc.Ok s.cells s.reader.seen) (ha : ∀ i, a ≠ .item i) (h : readerStep s loc a = some s') :
    s'.reader.fuel < 20 * (3 - s.reader.seen) + loc.fuel := by
  cases readerStep_rule h with
  | streamEnd | streamError | text | binary | closeFrame | ping | pong | frame => exact absurd rfl (ha _)
  | selectChanged hv | acquireChanged _ hv | sendChanged _ _ hv =>
    exact Reader.fuel_lt_of_seen hv hc.signal_version (by simp [ReaderLoc.fuel])
  | errTaken | ended => exact Reader.fuel_lt (Nat.lt_succ_of_le (ReaderLoc.fuel_conclude _))
  | finishSubscribe => exact Reader.fuel_lt (by simp only [ReaderLoc.fuel, Wait.fuel]; omega)
  | finishWait _ _ _ hw =>
    exact Reader.fuel_lt (Nat.add_lt_add_left (hloc.2.fuel_lt hc.state_version hw) 5)
  | finishOver | finishTimer => exact Reader.fuel_lt (by simp only [ReaderLoc.fuel]; omega)
  | kill haw => exact Reader.fuel_lt (ReaderLoc.fuel_of_awaits haw)
  | _ => exact Reader.fuel_lt (by simp [ReaderLoc.fuel])

theorem Writer.fuel_lt {loc loc' : WriterLoc} {seen : Nat} (h : loc'.fuel < loc.fuel) :
    Writer.fuel ⟨loc', seen⟩ < 20 * (3 - seen) + loc.fuel :=
  Nat.add_lt_add_left h _

theorem writerChanged_fuel {n : Nat} (hc : s.cells.Coherent)
    (hlt : s.writer.seen < s.cells.shutdown.version) :
    (writerChanged s).writer.fuel < 20 * (3 - s.writer.seen) + n := by
  have := hc.signal_version
  simp only [writerChanged, Writer.fuel, WriterLoc.fuel]
  omega

theorem writerStep_fuel {loc : WriterLoc} {a : WriterAct} (hc : s.cells.Coherent)
    (hloc : loc.Ok s.cells s.writer.seen) (hok : a ≠ .sinkOk) (herr : ∀ e, a ≠ .sinkErr e)
    (h : writerStep s loc a = some s') : s'.writer.fuel < 20 * (3 - s.writer.seen) + loc.fuel := by
  cases writerStep_rule h with
  | selectChanged hv | eventsChanged hv => exact writerChanged_fuel hc hv
  | flushed | sent | closeSent | closeFlushed => exact absurd rfl hok
  | flushFailed | sendFailed | closeSendFailed | closeFlushFailed => exact absurd rfl (herr _)
  | handshake _ _ hw =>
    exact Writer.fuel_lt (Nat.add_lt_add_left (hloc.2.fuel_lt hc.signal_version hw) 6)
  | handshakeOver => exact Writer.fuel_lt (by simp only [WriterLoc.fuel]; omega)
  | kill haw => exact Writer.fuel_lt (WriterLoc.fuel_of_awaits haw)
  | _ => exact Writer.fuel_lt (by simp [WriterLoc.fuel])

theorem watchdogStep_fuel {i : Nat} {loc : WatchdogLoc} {a : WatchdogAct} (hc : s.cells.Coherent)
    (hloc : loc.Ok s.cells) (h : watchdogStep s i loc a = some s') :
    ∃ loc', s'.watchdogs = s.watchdogs.set i loc' ∧ loc'.fuel < loc.fuel := by
  cases watchdogStep_rule h with
  | sleep _ _ hw => exact ⟨_, rfl, Nat.add_lt_add_left (hloc.2.fuel_lt hc.state_version hw) 5⟩
  | sleepOver | timer => exact ⟨_, rfl, by simp only [WatchdogLoc.fuel]; omega⟩
  | _ => exact ⟨_, rfl, by simp [WatchdogLoc.fuel]⟩

/-- A close pays for the watchdog it spawns. -/
theorem closeStep_fuel {i : Nat} {loc : CloseLoc} (bound : Nat) (hc : s.cells.Coherent)
    (hloc : loc.Ok s.cells) (hb : s.cells.tasksRemaining.version ≤ bound)
    (h : closeStep s i loc .next = some s') :
    ∃ loc', s'.closes = s.closes.set i loc' ∧
      loc'.fuel bound + Pool.weigh WatchdogLoc.fuel s'.watchdogs <
        loc.fuel bound + Pool.weigh WatchdogLoc.fuel s.watchdogs := by
  have key : ∀ {loc' : CloseLoc}, loc'.fuel bound < loc.fuel bound →
      loc'.fuel bound + Pool.weigh WatchdogLoc.fuel s.watchdogs <
        loc.fuel bound + Pool.weigh WatchdogLoc.fuel s.watchdogs := fun h => Nat.add_lt_add_right h _
  cases closeStep_rule h with
  | spawn =>
    refine ⟨_, rfl, ?_⟩
    simp only [Pool.weigh_append, Pool.weigh_cons, Pool.weigh_nil, CloseLoc.fuel, WatchdogLoc.fuel,
      Wait.fuel]
    omega
  | startClosed | subscribe | waitStateOver =>
    exact ⟨_, rfl, key (by simp only [CloseLoc.fuel, Wait.fuel]; omega)⟩
  | waitState _ _ hw =>
    exact ⟨_, rfl, key (Nat.add_lt_add_left (Wait.Ok.fuel_lt hc.state_version hloc hw) _)⟩
  | waitTasks _ _ _ hw => exact ⟨_, rfl, key (Nat.add_lt_add_left (hloc.2.fuel_lt hb hw) _)⟩
  | _ => exact ⟨_, rfl, key (by simp only [CloseLoc.fuel]; omega)⟩

theorem abortStep_fuel {i : Nat} {loc : AbortLoc} (h : abortStep s i loc = some s') :
    ∃ loc', s'.aborts = s.aborts.set i loc' ∧ loc'.fuel < loc.fuel := by
  cases loc <;> cases h <;> exact ⟨_, rfl, by simp [AbortLoc.fuel]⟩

theorem sendStep_fuel {i : Nat} {loc : SendLoc} {a : SendAct} (h : sendStep config s i loc a = some s') :
    ∃ loc', s'.sends = s.sends.set i loc' ∧ loc'.fuel < loc.fuel := by
  cases sendStep_rule h <;> exact ⟨_, rfl, by simp [SendLoc.fuel]⟩

theorem receiveStep_fuel {i : Nat} {loc : ReceiveLoc} {a : CallAct} (h : receiveStep s i loc a = some s') :
    ∃ loc', s'.receives = s.receives.set i loc' ∧ loc'.fuel < loc.fuel := by
  cases receiveStep_rule h <;> exact ⟨_, rfl, by simp [ReceiveLoc.fuel]⟩

end Steps

/-! ## Internal runs are finite -/

variable {config : ConnectionConfig} {s s' : St} {l : Label}

/-- **Every internal step lowers the fuel.** -/
theorem fuel_step (hl : Lifecycle s) (hg : Guards s) (hint : l.internal = true)
    (hst : step config s l = some s') : s'.fuel < s.fuel := by
  have hc := hl.cells
  cases step_move hst with
  | reader f hst =>
    have hlt : s'.reader.fuel < s.reader.fuel :=
      readerStep_fuel hc hl.reader.2 (fun i hi => by subst hi; cases hint) hst
    have hv := (readerStep_guard hst).version
    have hb : s'.bound = s.bound := by
      simp only [St.bound, f.writer, f.watchdogs, f.closes]; omega
    simp only [St.fuel, hb, f.writer, f.watchdogs, f.closes, f.aborts, f.sends, f.receives, f.driver]
    omega
  | writer f hst =>
    have hlt : s'.writer.fuel < s.writer.fuel :=
      writerStep_fuel hc hl.writer.2 (fun hi => by subst hi; cases hint)
        (fun e he => by subst he; cases hint) hst
    have hv := (writerStep_guard hst).version
    have hb : s'.bound = s.bound := by
      simp only [St.bound, f.reader, f.watchdogs, f.closes]; omega
    simp only [St.fuel, hb, f.reader, f.watchdogs, f.closes, f.aborts, f.sends, f.receives, f.driver]
    omega
  | control f m =>
    cases m with
    | watchdog hloc hst hcl hab =>
      obtain ⟨loc', hset, hlt⟩ := watchdogStep_fuel hc (hl.watchdogs _ (List.mem_of_getElem? hloc)) hst
      obtain ⟨loc'', hset', hmove⟩ := watchdogStep_guard hst
      obtain rfl := Pool.eq_of_set hloc (hset.symm.trans hset')
      have hv := hmove.version
      have hwg := Pool.weigh_set (f := WatchdogLoc.guards) hloc loc'
      have hwf := Pool.weigh_set (f := WatchdogLoc.fuel) hloc loc'
      have hb : s'.bound = s.bound := by
        simp only [St.bound, f.reader, f.writer, hcl, hset]; omega
      simp only [St.fuel, hb, f.reader, f.writer, hset, hcl, hab, f.sends, f.receives, f.driver]
      omega
    | @close i a _ _ hloc hst hab =>
      obtain rfl : a = .next := by cases a <;> first | rfl | cases hint
      have hcount := hg.counter
      simp only [St.guards] at hcount
      have hle := Pool.weigh_le_of_get (f := CloseLoc.guards) hloc
      obtain ⟨loc', hset, hlt⟩ := closeStep_fuel s.bound hc
        (hl.closes _ (List.mem_of_getElem? hloc)) (by simp only [St.bound]; omega) hst
      obtain ⟨loc'', m⟩ := closeStep_move (by omega) hst
      obtain rfl := Pool.eq_of_set hloc (hset.symm.trans m.closes)
      have hv := m.versions
      have hwc := Pool.weigh_set (f := CloseLoc.changes) hloc loc'
      have hwf := Pool.weigh_set (f := CloseLoc.fuel s.bound) hloc loc'
      have hb : s'.bound ≤ s.bound := by
        simp only [St.bound, f.reader, f.writer, hset]; omega
      have hmono := Pool.weigh_mono (s.closes.set i loc') fun x _ => CloseLoc.fuel_mono hb x
      simp only [St.fuel, f.reader, f.writer, hset, hab, f.sends, f.receives, f.driver]
      omega
    | abort hloc hst hcl hwd =>
      obtain ⟨loc', hset, hlt⟩ := abortStep_fuel hst
      have hwf := Pool.weigh_set (f := AbortLoc.fuel) hloc loc'
      have hb : s'.bound = s.bound := by
        simp only [St.bound, f.reader, f.writer, hcl, hwd, (abortStep_guard hst).1]
      simp only [St.fuel, hb, f.reader, f.writer, hset, hcl, hwd, f.sends, f.receives, f.driver]
      omega
    | callClose | callAbort => cases hint
  | send f hloc hst =>
    obtain ⟨loc', hset, hlt⟩ := sendStep_fuel hst
    have hwf := Pool.weigh_set (f := SendLoc.fuel) hloc loc'
    have hb : s'.bound = s.bound := by
      simp only [St.bound, f.cells, f.reader, f.writer, f.watchdogs, f.closes]
    simp only [St.fuel, hb, f.reader, f.writer, f.watchdogs, f.closes, f.aborts, hset, f.receives,
      f.driver]
    omega
  | receive f hloc hst =>
    obtain ⟨loc', hset, hlt⟩ := receiveStep_fuel hst
    have hwf := Pool.weigh_set (f := ReceiveLoc.fuel) hloc loc'
    have hb : s'.bound = s.bound := by
      simp only [St.bound, f.cells, f.reader, f.writer, f.watchdogs, f.closes]
    simp only [St.fuel, hb, f.reader, f.writer, f.watchdogs, f.closes, f.aborts, f.sends, hset, f.driver]
    omega
  | dropFields hdr =>
    simp only [St.fuel, St.bound, dropFields, hdr, DriverLoc.fuel]
    omega
  | callAdmit | callReceive | dropDriver => cases hint

/-! ## Nothing is stuck before it is over -/

/-- The steps of the driver's own tasks and timers, and of the closes and aborts in progress. -/
def Label.core : Label → Bool
  | .reader (.item _) | .writer .sinkOk | .writer (.sinkErr _) | .close _ .drop => false
  | .reader _ | .writer _ | .watchdog _ _ | .close _ .next | .abort _ => true
  | _ => false

/-- A run that has exhausted the internal steps has exhausted those of the driver itself. -/
theorem Label.internal_of_core (h : l.core = true) : l.internal = true := by
  cases l with
  | reader a | writer a | close i a => cases a <;> first | rfl | cases h
  | watchdog | abort => rfl
  | _ => cases h

/-- The connection is over. -/
structure Over (s : St) : Prop where
  closed : ∃ e, s.cells.state.value = .closed e
  reader : s.reader.loc = .finished
  writer : s.writer.loc = .finished
  watchdogs : ∀ w ∈ s.watchdogs, w = .finished
  tasks : s.cells.tasksRemaining.value = 0
  closes : ∀ l ∈ s.closes, l.isOver = true

section Stuck

variable (h : ∀ l, l.core = true → step config s l = none)
include h

theorem abort_of_stuck : ∀ a ∈ s.aborts, a = .done := by
  intro a ha
  obtain ⟨i, hi⟩ := List.mem_iff_getElem?.mp ha
  have hn := h (.abort i) rfl
  simp only [step, hi, Option.bind_some] at hn
  cases a <;> first | rfl | cases hn

theorem watchdog_of_stuck : ∀ w ∈ s.watchdogs, w = .finished := by
  intro w hw
  obtain ⟨i, hi⟩ := List.mem_iff_getElem?.mp hw
  have hn := h (.watchdog i .next) rfl
  have ht := h (.watchdog i .timer) rfl
  simp only [step, hi, Option.bind_some] at hn ht
  cases w with
  | finished => rfl
  | sleep => cases ht
  | _ => cases hn

/-- A stuck reader is parked where an abort or a new signal would wake it. -/
theorem reader_of_stuck : s.reader.loc = .finished ∨
    s.cells.readerAbort = false ∧ ¬s.reader.seen < s.cells.shutdown.version ∧
      (s.reader.loc = .select ∨ (∃ p, s.reader.loc = .acquire p) ∨ ∃ m p, s.reader.loc = .send m p) := by
  have hn := h (.reader .next) rfl
  have hk := h (.reader .kill) rfl
  have hch := h (.reader .changed) rfl
  have ht := h (.reader .timer) rfl
  simp only [step] at hn hk hch ht
  cases hloc : s.reader.loc with
  | finished => exact .inl rfl
  | select | acquire | send =>
    rw [hloc] at hk hch
    simp only [readerStep, readerChanged, ite_eq_right_iff, reduceCtorEq, imp_false,
      Bool.not_eq_true] at hk hch
    exact .inr ⟨hk, hch, by simp⟩
  | finishWait o w =>
    rw [hloc] at hn ht
    cases w with
    | check => simp only [readerStep, Wait.step] at hn; split at hn <;> simp_all
    | changed => cases ht
  | queue p =>
    rw [hloc] at hn
    simp only [readerStep] at hn
    split at hn
    · cases hn
    · split at hn <;> cases hn
  | _ => rw [hloc] at hn; cases hn

/-- A stuck writer is parked where an abort would end it. -/
theorem writer_of_stuck : s.writer.loc = .finished ∨
    s.cells.writerAbort = false ∧ s.writer.loc.ending = false := by
  have hn := h (.writer .next) rfl
  have hk := h (.writer .kill) rfl
  simp only [step] at hn hk
  cases hloc : s.writer.loc with
  | finished => exact .inl rfl
  | events | flush | send | closeSend | closeFlush =>
    rw [hloc] at hk
    exact .inr ⟨by simpa [writerStep] using hk, rfl⟩
  | handshake w =>
    rw [hloc] at hn hk
    cases w with
    | check => simp only [writerStep, Wait.step] at hn; split at hn <;> simp_all
    | changed => exact .inr ⟨by simpa [writerStep] using hk, rfl⟩
  | _ => rw [hloc] at hn; cases hn

/-- A stuck close holds no guard and waits for the end, which wakes it. -/
theorem close_of_stuck (hl : Lifecycle s) : ∀ l ∈ s.closes, l.guards = 0 ∧ l.publishes = false ∧
    (3 ≤ s.cells.state.value.rank → s.cells.tasksRemaining.value = 0 → l.isOver = true) := by
  intro l hmem
  have hok := hl.closes l hmem
  obtain ⟨i, hi⟩ := List.mem_iff_getElem?.mp hmem
  have hn := h (.close i .next) rfl
  simp only [step, hi, Option.bind_some] at hn
  cases l with
  | returned | dropped => exact ⟨rfl, rfl, fun _ _ => rfl⟩
  | waitState w =>
    refine ⟨rfl, rfl, fun h3 _ => ?_⟩
    obtain ⟨e, he⟩ := DriverState.exists_closed h3
    have hs := Wait.Ok.enabled hok (DriverState.isTerminal_iff.mpr h3)
    simp only [closeStep, he, DriverState.closedError, Option.map_some] at hn
    split at hn <;> simp_all
  | waitTasks t w =>
    refine ⟨rfl, rfl, fun _ h0 => ?_⟩
    have hs := hok.2.enabled (by simp [h0])
    simp only [closeStep] at hn
    split at hn <;> simp_all
  | _ => cases hn

/-- **Nothing is stuck before it is over.** -/
theorem over_of_stuck (hs : Supervised s)
    (hbegun : s.cells.closing = true ∨ s.cells.state.value ≠ .opened) : Over s := by
  have hab := abort_of_stuck h
  have hwd := watchdog_of_stuck h
  have hcl := close_of_stuck h hs.lifecycle
  have hrd := reader_of_stuck h
  have hwr := writer_of_stuck h
  -- whoever is responsible has a step
  have hnoabort : ∀ {P : AbortLoc → Bool}, P .done = false → ¬∃ a ∈ s.aborts, P a = true := by
    rintro P hP ⟨a, ha, hPa⟩
    rw [hab a ha, hP] at hPa
    cases hPa
  have hnodog : ∀ {P : WatchdogLoc → Bool}, P .finished = false → ¬∃ w ∈ s.watchdogs, P w = true := by
    rintro P hP ⟨w, hw, hPw⟩
    rw [hwd w hw, hP] at hPw
    cases hPw
  have hnoleave : s.reader.loc.leaving = true → s.reader.loc = .finished := by
    intro hlv
    rcases hrd with hf | ⟨-, -, hr | ⟨p, hr⟩ | ⟨m, p, hr⟩⟩
    · exact hf
    all_goals rw [hr] at hlv; cases hlv
  have hclosed : 3 ≤ s.cells.state.value.rank := by
    cases hst : s.cells.state.value with
    | closed e => exact Nat.le_refl _
    | opened =>
      have hflag : s.cells.closing = true := hbegun.resolve_right fun hne => hne hst
      rcases hs.responsible.opened hflag hst with ⟨l, hl, hp⟩ | hx | hx
      · rw [(hcl l hl).2.1] at hp; cases hp
      · exact absurd hx (hnoabort rfl)
      · have hf := hnoleave (by cases hr : s.reader.loc <;> rw [hr] at hx <;> first | rfl | cases hx)
        rw [hf] at hx; cases hx
    | closing =>
      rcases hs.responsible.closing hst with ⟨l, hl, hp⟩ | hx
      · rw [l.spawns_of_guards (hcl l hl).1] at hp; cases hp
      · exact absurd hx (hnodog rfl)
    | peerClosed o =>
      have hp := hs.peer o hst
      rw [hnoleave (ReaderLoc.leaving_of_peerOutcome hp)] at hp
      cases hp
  have hwriter : s.writer.loc = .finished := by
    rcases hwr with hf | ⟨hno, hne⟩
    · exact hf
    · rcases hs.responsible.writer hclosed with hx | hx | hx | hx | hx
      · rw [hno] at hx; cases hx
      · rw [hne] at hx; cases hx
      · have hf := hnoleave (by cases hr : s.reader.loc <;> rw [hr] at hx <;> first | rfl | cases hx)
        rw [hf] at hx; cases hx
      · exact absurd hx (hnoabort rfl)
      · exact absurd hx (hnodog rfl)
  have hreader : s.reader.loc = .finished := by
    rcases hrd with hf | ⟨hno, hseen, hpark⟩
    · exact hf
    · have hok := hs.lifecycle.reader
      have heq : s.reader.seen = s.cells.shutdown.version := by have := hok.1; omega
      rcases hs.responsible.reader hclosed with hx | hx | hx | hx | hx | hx
      · rw [hno] at hx; cases hx
      · -- a parked reader has seen the signal, and it was not `Abort`
        rcases hpark with hr | ⟨p, hr⟩ | ⟨m, p, hr⟩
        all_goals
          have hloc := hok.2
          rw [hr] at hloc
        · exact absurd hx (hloc heq)
        · rw [hloc heq] at hx; cases hx
        · rw [hloc heq] at hx; cases hx
      · exact hnoleave hx
      · rw [hwriter] at hx; cases hx
      · exact absurd hx (hnoabort rfl)
      · exact absurd hx (hnodog rfl)
  have htasks : s.cells.tasksRemaining.value = 0 := by
    rw [hs.guards.counter, St.guards, hreader, hwriter,
      Pool.weigh_eq_zero fun w hw => by rw [hwd w hw]; rfl,
      Pool.weigh_eq_zero fun l hl => (hcl l hl).1]
    rfl
  exact ⟨DriverState.exists_closed hclosed, hreader, hwriter, hwd, htasks,
    fun l hl => (hcl l hl).2.2 hclosed htasks⟩

end Stuck

/-! ## Pending closes -/

/-- A step of the close itself does not drop its future. -/
theorem closeStep_pending {i : Nat} {loc : CloseLoc} (h : closeStep s i loc .next = some s') :
    ∃ loc', s'.closes = s.closes.set i loc' ∧ loc' ≠ .dropped := by
  cases closeStep_rule h <;> exact ⟨_, rfl, by rintro ⟨⟩⟩

/-- Every call of `close` that is not dropped is still there, and still not dropped. -/
def ClosesKept (s s' : St) : Prop :=
  ∀ (i : Nat) (l : CloseLoc), s.closes[i]? = some l → l ≠ .dropped →
    ∃ l' : CloseLoc, s'.closes[i]? = some l' ∧ l' ≠ .dropped

theorem ClosesKept.of_eq (h : s'.closes = s.closes) : ClosesKept s s' :=
  fun _ l hl hne => ⟨l, h ▸ hl, hne⟩

theorem closesKept_step (hint : l.internal = true) (hst : step config s l = some s') :
    ClosesKept s s' := by
  cases step_move hst with
  | reader f | writer f | send f | receive f => exact .of_eq f.closes
  | control _ m =>
    cases m with
    | watchdog _ _ hcl | abort _ _ hcl => exact .of_eq hcl
    | @close j a _ _ hloc hst =>
      obtain rfl : a = .next := by cases a <;> first | rfl | cases hint
      obtain ⟨loc', hset, hne'⟩ := closeStep_pending hst
      intro i l hl hne
      rw [hset]
      by_cases hij : j = i
      · subst hij
        exact ⟨loc', by simp [(List.getElem?_eq_some_iff.mp hl).1], hne'⟩
      · exact ⟨l, by rw [List.getElem?_set_ne hij]; exact hl, hne⟩
    | callClose | callAbort => cases hint
  | dropFields => exact .of_eq rfl
  | callAdmit | callReceive | dropDriver => cases hint

/-! ## The result -/

/-- A run the runtime makes by itself: no transport event, no new call, no dropped future. -/
abbrev InternalRun (config : ConnectionConfig) : St → List Label → St → Prop :=
  Lts.Path (step config) fun _ l => l.internal = true

structure ClosingTerminates (config : ConnectionConfig) (s : St) : Prop where
  /-- Every internal run is finite. -/
  finite : ∀ ls s', InternalRun config s ls s' → ls.length ≤ s.fuel
  /-- When an internal run has exhausted the steps of the driver itself, whether or not the callers
  of `send` and `receive` go on, everything is over and every pending close has returned. -/
  ends : ∀ ls s', InternalRun config s ls s' → (∀ l, l.core = true → step config s' l = none) →
    Over s' ∧ ∀ (i : Nat) (l : CloseLoc), s.closes[i]? = some l → l ≠ .dropped →
      ∃ r, s'.closes[i]? = some (CloseLoc.returned r)
  /-- `Closing` has a live watchdog, or a `begin_close` on its way to spawning it. -/
  watched : s.cells.state.value = .closing →
    (∃ w ∈ s.watchdogs, w.guarding = true) ∨ ∃ l ∈ s.closes, l.spawns = true
  /-- `PeerClosed` has the reader inside `finish_peer_close`. -/
  peer : ∀ o, s.cells.state.value = .peerClosed o → s.reader.loc.peerOutcome = some o

theorem closing_never_hangs (h : Reachable config s)
    (hbegun : s.cells.closing = true ∨ s.cells.state.value ≠ .opened) : ClosingTerminates config s := by
  have hs := supervised_reachable h
  constructor
  · intro ls s' hp
    have := hp.length_le (P := Supervised) St.fuel
      (fun _ _ _ hs hint hst => ⟨supervised_step hs hst, fuel_step hs.lifecycle hs.guards hint hst⟩) hs
    omega
  · intro ls s' hp hstuck
    have he := evolves_of_path hs.lifecycle hp
    have hs' := hp.invariant (fun _ _ _ hs _ hst => supervised_step hs hst) hs
    have hkept : ClosesKept s s' := hp.relation (P := fun _ => True) (fun _ => .of_eq rfl)
      (fun _ _ _ hab hbc (i : Nat) (l : CloseLoc) hl hne =>
        have ⟨l', hl', hne'⟩ := hab i l hl hne
        hbc i l' hl' hne')
      (fun _ _ _ _ hint hst => ⟨trivial, closesKept_step hint hst⟩) trivial
    have hover := over_of_stuck hstuck hs' <| hbegun.imp he.closing fun hne ho => hne <| by
      have hf := he.forward
      rw [ho] at hf
      exact hf.resolve_right (Nat.not_lt_zero _)
    refine ⟨hover, fun i l hl hne => ?_⟩
    obtain ⟨l', hl', hne'⟩ := hkept i l hl hne
    have hdone := hover.closes l' (List.mem_of_getElem? hl')
    cases l' with
    | returned r => exact ⟨r, hl'⟩
    | dropped => exact absurd rfl hne'
    | _ => cases hdone
  · intro hc; exact (hs.responsible.closing hc).symm
  · exact hs.peer

/-- A close whose frame the peer never lets through, and whose caller has gone. -/
def blockedCloseRun : List Label :=
  [.callClose, .close 0 .next, .close 0 .next, .close 0 .next, .close 0 .next, .close 0 .next,
    .close 0 .next, .close 0 .next, .close 0 .next, .close 0 .next, .close 0 .drop, .writer .next,
    .writer .next, .writer .next]

theorem closing_never_hangs_blocked :
    ClosingTerminates .tiny (Lts.after (step .tiny) (start .tiny) blockedCloseRun) ∧
      (Lts.after (step .tiny) (start .tiny) blockedCloseRun).writer.loc = .closeSend :=
  ⟨closing_never_hangs (Lts.reachable_after rfl) (.inl rfl), rfl⟩

end FogWS
