import FogWS.Lifecycle
/-!
# Task guards and the owner of a close

`tasks_remaining` counts the live `DriverTaskGuard`s: `St.guards` says who holds one. The first close
to swap the closing flag is the *owner*: it is the only one that can spawn a watchdog, and it holds
its guard until the watchdog takes it over.

`Gone` is what a returned `close` has waited for; nothing brings a task back.
-/
namespace FogWS

/-! ## Who holds a guard -/

def ReaderLoc.guards : ReaderLoc → Nat
  | .finished => 0
  | _ => 1

def WriterLoc.guards : WriterLoc → Nat
  | .finished => 0
  | _ => 1

def WatchdogLoc.guards : WatchdogLoc → Nat
  | .finished => 0
  | _ => 1

/-- `begin_close` holds its guard until it returns early or the watchdog has it. -/
def CloseLoc.guards : CloseLoc → Nat
  | .swap | .transition | .signal | .arm | .spawn | .earlyReturn => 1
  | _ => 0

/-- How often a close can still change the counter with its own guard. -/
def CloseLoc.changes : CloseLoc → Nat
  | .start | .guard => 2
  | .swap | .transition | .signal | .arm | .spawn | .earlyReturn => 1
  | _ => 0

/-- The live guards. -/
def St.guards (s : St) : Nat :=
  s.reader.loc.guards + s.writer.loc.guards + Pool.weigh WatchdogLoc.guards s.watchdogs +
    Pool.weigh CloseLoc.guards s.closes

/-- The close that has swapped the closing flag first, while it is on its way to the watchdog. -/
def CloseLoc.owner : CloseLoc → Nat
  | .transition | .signal | .arm | .spawn => 1
  | _ => 0

/-- The owner before `close_timeout_started.swap(true)`. -/
def CloseLoc.unarmed : CloseLoc → Nat
  | .transition | .signal | .arm => 1
  | _ => 0

@[simp] theorem ReaderLoc.guards_conclude (t : DriverError) : (ReaderLoc.conclude t).guards = 1 := by
  unfold ReaderLoc.conclude
  split <;> rfl

theorem ReaderLoc.guards_eq_zero {l : ReaderLoc} : l.guards = 0 ↔ l = .finished := by
  cases l <;> simp [ReaderLoc.guards]

theorem WriterLoc.guards_eq_zero {l : WriterLoc} : l.guards = 0 ↔ l = .finished := by
  cases l <;> simp [WriterLoc.guards]

theorem WatchdogLoc.guards_eq_zero {l : WatchdogLoc} : l.guards = 0 ↔ l = .finished := by
  cases l <;> simp [WatchdogLoc.guards]

theorem CloseLoc.unarmed_le_owner (l : CloseLoc) : l.unarmed ≤ l.owner := by
  cases l <;> simp [CloseLoc.owner, CloseLoc.unarmed]

/-! ## The counter -/

/-- The counter is left alone and the guard kept, or it is lowered and the guard is gone. -/
def GuardMove (w w' : Watch Nat) (before after : Nat) : Prop :=
  w' = w ∧ after = before ∨ w' = w.sendModify (· - 1) ∧ before = 1 ∧ after = 0

namespace GuardMove

variable {w w' : Watch Nat} {before after : Nat}

theorem value (h : GuardMove w w' before after) (hpos : before ≤ w.value) :
    w'.value + before = w.value + after := by
  rcases h with ⟨rfl, rfl⟩ | ⟨rfl, rfl, rfl⟩
  · rfl
  · exact Nat.sub_add_cancel hpos

theorem version (h : GuardMove w w' before after) : w'.version + after = w.version + before := by
  rcases h with ⟨rfl, rfl⟩ | ⟨rfl, rfl, rfl⟩ <;> rfl

end GuardMove

section Steps

variable {config : ConnectionConfig} {s s' : St}

/-- An aborted task still has its guard. -/
theorem ReaderLoc.guards_of_awaits {loc : ReaderLoc} (h : loc.awaits = true) : loc.guards = 1 := by
  cases loc with
  | finished => cases h
  | _ => rfl

theorem WriterLoc.guards_of_awaits {loc : WriterLoc} (h : loc.awaits = true) : loc.guards = 1 := by
  cases loc with
  | finished => cases h
  | _ => rfl

theorem readerStep_guard {loc : ReaderLoc} {a : ReaderAct} (h : readerStep s loc a = some s') :
    GuardMove s.cells.tasksRemaining s'.cells.tasksRemaining loc.guards s'.reader.loc.guards := by
  cases readerStep_rule h with
  | errTaken | ended => exact .inl ⟨rfl, ReaderLoc.guards_conclude _⟩
  | returned => exact .inr ⟨rfl, rfl, rfl⟩
  | kill haw => exact .inl ⟨rfl, (ReaderLoc.guards_of_awaits haw).symm⟩
  | _ => exact .inl ⟨rfl, rfl⟩

theorem writerStep_guard {loc : WriterLoc} {a : WriterAct} (h : writerStep s loc a = some s') :
    GuardMove s.cells.tasksRemaining s'.cells.tasksRemaining loc.guards s'.writer.loc.guards := by
  cases writerStep_rule h with
  | returned => exact .inr ⟨rfl, rfl, rfl⟩
  | kill haw => exact .inl ⟨rfl, (WriterLoc.guards_of_awaits haw).symm⟩
  | _ => exact .inl ⟨rfl, rfl⟩

theorem watchdogStep_guard {i : Nat} {loc : WatchdogLoc} {a : WatchdogAct}
    (h : watchdogStep s i loc a = some s') :
    ∃ loc', s'.watchdogs = s.watchdogs.set i loc' ∧
      GuardMove s.cells.tasksRemaining s'.cells.tasksRemaining loc.guards loc'.guards := by
  cases watchdogStep_rule h with
  | returned => exact ⟨_, rfl, .inr ⟨rfl, rfl, rfl⟩⟩
  | _ => exact ⟨_, rfl, .inl ⟨rfl, rfl⟩⟩

theorem watchdogStep_flags {i : Nat} {loc : WatchdogLoc} {a : WatchdogAct}
    (h : watchdogStep s i loc a = some s') : s'.cells.closing = s.cells.closing ∧
      s'.cells.closeTimeoutStarted = s.cells.closeTimeoutStarted := by
  cases watchdogStep_rule h <;> exact ⟨rfl, rfl⟩

theorem abortStep_guard {i : Nat} {loc : AbortLoc} (h : abortStep s i loc = some s') :
    s'.cells.tasksRemaining = s.cells.tasksRemaining ∧
      s'.cells.closeTimeoutStarted = s.cells.closeTimeoutStarted := by
  cases loc <;> cases h <;> exact ⟨rfl, rfl⟩

/-- What a step of `begin_close` does to guards, ownership and the two flags. -/
structure CloseMove (s s' : St) (i : Nat) (loc loc' : CloseLoc) : Prop where
  closes : s'.closes = s.closes.set i loc'
  tasks : s'.cells.tasksRemaining.value + loc.guards + Pool.weigh WatchdogLoc.guards s.watchdogs =
    s.cells.tasksRemaining.value + loc'.guards + Pool.weigh WatchdogLoc.guards s'.watchdogs
  versions : s'.cells.tasksRemaining.version + loc'.changes +
      Pool.weigh WatchdogLoc.guards s'.watchdogs ≤
    s.cells.tasksRemaining.version + loc.changes + Pool.weigh WatchdogLoc.guards s.watchdogs
  /-- Only the first swap of the closing flag makes an owner. -/
  owner : loc'.owner + s'.watchdogs.length ≤ loc.owner + s.watchdogs.length ∨
    s.cells.closing = false ∧ s'.cells.closing = true ∧
      loc'.owner + s'.watchdogs.length = loc.owner + s.watchdogs.length + 1
  unarmed : loc'.unarmed ≤ loc.unarmed ∨ s.cells.closing = false
  started : s'.cells.closeTimeoutStarted = s.cells.closeTimeoutStarted ∨
    loc.unarmed = 1 ∧ loc'.unarmed = 0

theorem closeStep_move {i : Nat} {loc : CloseLoc} {a : CallAct}
    (hpos : loc.guards ≤ s.cells.tasksRemaining.value) (h : closeStep s i loc a = some s') :
    ∃ loc', CloseMove s s' i loc loc' := by
  have hle : ∀ {n : Nat}, n ≤ n := Nat.le_refl _
  cases closeStep_rule h with
  | startClosed | dropStart =>
    refine ⟨_, rfl, rfl, ?_, .inl hle, .inl hle, .inl rfl⟩
    simp only [CloseLoc.changes, St.closeAt]
    omega
  | guard =>
    refine ⟨_, rfl, ?_, hle, .inl hle, .inl hle, .inl rfl⟩
    simp only [Cells.guardNew, Watch.value_sendModify, CloseLoc.guards, St.closeAt]
  | swap hcl =>
    refine ⟨_, rfl, rfl, hle, .inr ⟨hcl, rfl, ?_⟩, .inr hcl, .inl rfl⟩
    simp only [CloseLoc.owner, St.closeAt]
    omega
  | transitionLate =>
    exact ⟨_, rfl, rfl, hle, .inl (Nat.add_le_add_right (Nat.zero_le 1) _), .inl (Nat.zero_le _), .inl rfl⟩
  | armAgain =>
    exact ⟨_, rfl, rfl, hle, .inl (Nat.add_le_add_right (Nat.zero_le 1) _), .inl (Nat.zero_le _),
      .inr ⟨rfl, rfl⟩⟩
  | arm => exact ⟨_, rfl, rfl, hle, .inl hle, .inl (Nat.zero_le _), .inr ⟨rfl, rfl⟩⟩
  | spawn =>
    -- the guard moves into the watchdog
    refine ⟨_, rfl, ?_, ?_, .inl ?_, .inl hle, .inl rfl⟩
    · simp only [Pool.weigh_append, Pool.weigh_cons, Pool.weigh_nil, WatchdogLoc.guards, CloseLoc.guards,
        St.closeAt]
      omega
    · simp only [Pool.weigh_append, Pool.weigh_cons, Pool.weigh_nil, WatchdogLoc.guards,
        CloseLoc.changes, St.closeAt]
      omega
    · simp only [List.length_append, List.length_singleton, CloseLoc.owner]
      omega
  | earlyReturn =>
    refine ⟨_, rfl, ?_, hle, .inl hle, .inl hle, .inl rfl⟩
    exact congrArg (· + _) (Nat.sub_add_cancel hpos)
  | _ => exact ⟨_, rfl, rfl, hle, .inl hle, .inl hle, .inl rfl⟩

end Steps

/-! ## The invariant -/

/-- `tasks_remaining` counts the guards, and at most one close is the owner or has had a watchdog. -/
structure Guards (s : St) : Prop where
  counter : s.cells.tasksRemaining.value = s.guards
  one : Pool.weigh CloseLoc.owner s.closes + s.watchdogs.length ≤ 1
  none : s.cells.closing = false → Pool.weigh CloseLoc.owner s.closes + s.watchdogs.length = 0
  /-- Nobody else has armed the timeout while the owner is still to do so. -/
  started : s.cells.closeTimeoutStarted = true →
    s.cells.closing = true ∧ Pool.weigh CloseLoc.unarmed s.closes = 0

theorem guards_start (config : ConnectionConfig) : Guards (start config) :=
  ⟨rfl, Nat.zero_le _, fun _ => rfl, nofun⟩

variable {config : ConnectionConfig} {s s' : St} {l : Label}

/-- A step of a process that moves no close and no watchdog. -/
theorem Guards.of_flags (h : Guards s) (hc : s'.cells.tasksRemaining.value = s'.guards)
    (hcl : s'.closes = s.closes) (hw : s'.watchdogs = s.watchdogs)
    (hflag : s.cells.closing = true → s'.cells.closing = true)
    (hst : s'.cells.closeTimeoutStarted = s.cells.closeTimeoutStarted) : Guards s' := by
  refine ⟨hc, by rw [hcl, hw]; exact h.one, fun hf => ?_, fun hf => ?_⟩
  · rw [hcl, hw]
    refine h.none ?_
    cases hb : s.cells.closing with
    | false => rfl
    | true => rw [hflag hb] at hf; cases hf
  · rw [hcl]
    exact ⟨hflag (h.started (hst ▸ hf)).1, (h.started (hst ▸ hf)).2⟩

/-! ### A watchdog and a close -/

theorem guards_watchdog {i : Nat} {loc : WatchdogLoc} {a : WatchdogAct} (h : Guards s)
    (f : ControlFrame s s') (hloc : s.watchdogs[i]? = some loc) (hst : watchdogStep s i loc a = some s')
    (hcl : s'.closes = s.closes) : Guards s' := by
  have hc := h.counter
  simp only [St.guards] at hc
  have hle := Pool.weigh_le_of_get (f := WatchdogLoc.guards) hloc
  obtain ⟨loc', hset, hmove⟩ := watchdogStep_guard hst
  have hg := hmove.value (by omega)
  obtain ⟨hflag, hstarted⟩ := watchdogStep_flags hst
  have hw := Pool.weigh_set (f := WatchdogLoc.guards) hloc loc'
  constructor
  · simp only [St.guards, f.reader, f.writer, hcl, hset]
    omega
  · rw [hcl, hset, List.length_set]; exact h.one
  · rw [hcl, hset, List.length_set, hflag]; exact h.none
  · rw [hcl, hflag, hstarted]; exact h.started

section Close

variable {i : Nat} {loc loc' : CloseLoc} (h : Guards s) (hloc : s.closes[i]? = some loc)
  (m : CloseMove s s' i loc loc')
include h hloc m

/-- A guard that a close lets go of is dropped, or goes to the watchdog. -/
theorem CloseMove.counter (f : ControlFrame s s') : s'.cells.tasksRemaining.value = s'.guards := by
  have hc := h.counter
  simp only [St.guards] at hc
  have hle := Pool.weigh_le_of_get (f := CloseLoc.guards) hloc
  have hw := Pool.weigh_set (f := CloseLoc.guards) hloc loc'
  have htasks := m.tasks
  simp only [St.guards, f.reader, f.writer, m.closes]
  omega

theorem CloseMove.one : Pool.weigh CloseLoc.owner s'.closes + s'.watchdogs.length ≤ 1 := by
  have hone := h.one
  have ho := Pool.weigh_set (f := CloseLoc.owner) hloc loc'
  rw [m.closes]
  rcases m.owner with hle | ⟨hf, -, heq⟩
  · omega
  · have hnone := h.none hf
    omega

/-- Whoever becomes the owner sets the flag. -/
theorem CloseMove.none (he : s.cells.Evolves s'.cells) (hf : s'.cells.closing = false) :
    Pool.weigh CloseLoc.owner s'.closes + s'.watchdogs.length = 0 := by
  have hf' : s.cells.closing = false := by
    cases hb : s.cells.closing with
    | false => rfl
    | true => rw [he.closing hb] at hf; cases hf
  have hnone := h.none hf'
  have ho := Pool.weigh_set (f := CloseLoc.owner) hloc loc'
  rw [m.closes]
  rcases m.owner with hle | ⟨-, ht, -⟩
  · omega
  · rw [ht] at hf; cases hf

theorem CloseMove.armed (he : s.cells.Evolves s'.cells) (hs : s'.cells.closeTimeoutStarted = true) :
    s'.cells.closing = true ∧ Pool.weigh CloseLoc.unarmed s'.closes = 0 := by
  have hone := h.one
  have hu := Pool.weigh_set (f := CloseLoc.unarmed) hloc loc'
  rw [m.closes]
  rcases m.started with heq | ⟨h1, h0⟩
  · obtain ⟨hcl, hz⟩ := h.started (heq ▸ hs)
    refine ⟨he.closing hcl, ?_⟩
    rcases m.unarmed with hle | hf
    · omega
    · rw [hcl] at hf; cases hf
  · -- the owner arms the timeout itself
    have hmono := Pool.weigh_mono s.closes fun x _ => CloseLoc.unarmed_le_owner x
    have hown := CloseLoc.unarmed_le_owner loc
    have hle := Pool.weigh_le_of_get (f := CloseLoc.owner) hloc
    refine ⟨?_, by omega⟩
    cases hb : s.cells.closing with
    | false => have := h.none hb; omega
    | true => exact he.closing hb

end Close

theorem guards_control (h : Guards s) (he : s.cells.Evolves s'.cells) (f : ControlFrame s s')
    (m : ControlMove s l s') : Guards s' := by
  cases m with
  | watchdog hloc hst hcl => exact guards_watchdog h f hloc hst hcl
  | close hloc hst =>
    have hle := Pool.weigh_le_of_get (f := CloseLoc.guards) hloc
    have hc := h.counter
    simp only [St.guards] at hc
    obtain ⟨loc', m⟩ := closeStep_move (by omega) hst
    exact ⟨m.counter h hloc f, m.one h hloc, m.none h hloc he, m.armed h hloc he⟩
  | abort _ hst hcl hw =>
    obtain ⟨ht, hstarted⟩ := abortStep_guard hst
    refine h.of_flags ?_ hcl hw he.closing hstarted
    rw [ht, h.counter]
    simp only [St.guards, f.reader, f.writer, hcl, hw]
  | callClose =>
    constructor <;>
      simp only [St.guards, Pool.weigh_append, Pool.weigh_cons, Pool.weigh_nil, CloseLoc.guards,
        CloseLoc.owner, CloseLoc.unarmed, Nat.add_zero]
    · exact h.counter
    · exact h.one
    · exact h.none
    · exact h.started
  | callAbort => exact ⟨h.counter, h.one, h.none, h.started⟩

theorem guards_step (hl : Lifecycle s) (h : Guards s) (hst : step config s l = some s') :
    Guards s' := by
  have he := (lifecycle_step hl hst).2
  have hc := h.counter
  simp only [St.guards] at hc
  cases step_move hst with
  | reader f hst =>
    have hg := (readerStep_guard hst).value (by omega)
    refine h.of_flags ?_ f.closes f.watchdogs he.closing f.started
    simp only [St.guards, f.writer, f.watchdogs, f.closes]
    omega
  | writer f hst =>
    have hg := (writerStep_guard hst).value (by omega)
    refine h.of_flags ?_ f.closes f.watchdogs he.closing f.started
    simp only [St.guards, f.reader, f.watchdogs, f.closes]
    omega
  | control f m => exact guards_control h he f m
  | send f | receive f =>
    refine h.of_flags ?_ f.closes f.watchdogs he.closing (by rw [f.cells])
    rw [f.cells, h.counter]
    simp only [St.guards, f.reader, f.writer, f.closes, f.watchdogs]
  | callAdmit | callReceive | dropDriver | dropFields => exact ⟨h.counter, h.one, h.none, h.started⟩

theorem guards_reachable (h : Reachable config s) : Guards s :=
  (h.invariant (P := fun s => Lifecycle s ∧ Guards s) ⟨lifecycle_start config, guards_start config⟩
    fun _ _ _ hP hst => ⟨(lifecycle_step hP.1 hst).1, guards_step hP.1 hP.2 hst⟩).2

/-! ## What a returned `close` has waited for -/

/-- A close that will still spawn a watchdog. -/
def CloseLoc.spawns : CloseLoc → Bool
  | .signal | .arm | .spawn => true
  | _ => false

theorem CloseLoc.spawns_of_guards (l : CloseLoc) (h : l.guards = 0) : l.spawns = false := by
  cases l <;> first | rfl | cases h

/-- Everything is over, and nobody is about to start a task. -/
structure Gone (s : St) : Prop where
  closed : ∃ e, s.cells.state.value = .closed e
  reader : s.reader.loc = .finished
  writer : s.writer.loc = .finished
  watchdogs : ∀ w ∈ s.watchdogs, w = .finished
  closes : ∀ l ∈ s.closes, l.spawns = false

/-- Without a guard there is no task, and no close that would spawn one. -/
theorem Guards.gone (h : Guards s) (h0 : s.cells.tasksRemaining.value = 0)
    (hc : ∃ e, s.cells.state.value = .closed e) : Gone s := by
  have hg := h.counter
  rw [h0, St.guards] at hg
  refine ⟨hc, ReaderLoc.guards_eq_zero.mp (by omega), WriterLoc.guards_eq_zero.mp (by omega), ?_, ?_⟩
  · intro w hw
    exact WatchdogLoc.guards_eq_zero.mp (Pool.eq_zero_of_weigh (by omega) hw)
  · intro l hl
    exact l.spawns_of_guards (Pool.eq_zero_of_weigh (by omega) hl)

theorem closeStep_gone {i : Nat} {loc : CloseLoc} {a : CallAct} (hloc : loc.spawns = false)
    (hc : ∃ e, s.cells.state.value = .closed e) (h : closeStep s i loc a = some s') :
    s'.watchdogs = s.watchdogs ∧ ∃ loc', s'.closes = s.closes.set i loc' ∧ loc'.spawns = false := by
  obtain ⟨e, he⟩ := hc
  cases closeStep_rule h with
  | transition ho =>
    -- the transition finds the state closed
    rw [he] at ho; cases ho
  | signal | arm | armAgain | spawn => cases hloc
  | _ => exact ⟨rfl, _, rfl, rfl⟩

/-- What is gone stays gone, and no task is started again. -/
theorem gone_step (hl : Lifecycle s) (h : Gone s) (hst : step config s l = some s') :
    Gone s' ∧ s'.watchdogs = s.watchdogs := by
  have he := (lifecycle_step hl hst).2
  have hclosed : ∃ e, s'.cells.state.value = .closed e := h.closed.imp fun _ => he.closed
  cases step_move hst with
  | @reader a _ f hst =>
    rw [h.reader] at hst
    cases a <;> cases hst
  | @writer a _ f hst =>
    rw [h.writer] at hst
    cases a <;> cases hst
  | control f m =>
    cases m with
    | @watchdog _ a _ _ hloc hst =>
      rw [h.watchdogs _ (List.mem_of_getElem? hloc)] at hst
      cases a <;> cases hst
    | close hloc hst =>
      obtain ⟨hw, loc', hset, hsp⟩ := closeStep_gone (h.closes _ (List.mem_of_getElem? hloc)) h.closed hst
      refine ⟨⟨hclosed, by rw [f.reader, h.reader], by rw [f.writer, h.writer], hw ▸ h.watchdogs, ?_⟩, hw⟩
      rw [hset]; exact Pool.forall_set h.closes hsp
    | abort _ _ hcl hw =>
      exact ⟨⟨hclosed, by rw [f.reader, h.reader], by rw [f.writer, h.writer], hw ▸ h.watchdogs,
        hcl ▸ h.closes⟩, hw⟩
    | callClose => exact ⟨{ h with closes := Pool.forall_snoc h.closes rfl }, rfl⟩
    | callAbort => exact ⟨⟨h.closed, h.reader, h.writer, h.watchdogs, h.closes⟩, rfl⟩
  | send f | receive f =>
    exact ⟨⟨hclosed, by rw [f.reader, h.reader], by rw [f.writer, h.writer], f.watchdogs ▸ h.watchdogs,
      f.closes ▸ h.closes⟩, f.watchdogs⟩
  | callAdmit | callReceive | dropDriver | dropFields =>
    exact ⟨⟨h.closed, h.reader, h.writer, h.watchdogs, h.closes⟩, rfl⟩

/-- Only the wait for the tasks returns, and only when the counter is zero. -/
theorem closeStep_returned {i : Nat} {loc : CloseLoc} {a : CallAct} {r : Except DriverError Unit}
    (hloc : loc.Ok s.cells) (h : closeStep s i loc a = some s') (hr : .returned r ∈ s'.closes) :
    .returned r ∈ s.closes ∨
      s.cells.tasksRemaining.value = 0 ∧ ∃ e, s.cells.state.value = .closed e := by
  have hset : ∀ {loc'}, .returned r ∈ s.closes.set i loc' → .returned r ∈ s.closes ∨ loc' = .returned r :=
    fun hm => (List.mem_or_eq_of_mem_set hm).imp_right Eq.symm
  cases closeStep_rule h with
  | waitTasksOver _ _ hw => exact .inr ⟨eq_of_beq (Wait.done_of_exit hw), _, hloc.1⟩
  | _ => exact .inl ((hset hr).resolve_right (by rintro ⟨⟩))

theorem returned_step (hl : Lifecycle s) (hg : Guards s)
    (h : ∀ r, .returned r ∈ s.closes → Gone s) (hst : step config s l = some s') :
    ∀ r, .returned r ∈ s'.closes → Gone s' := by
  intro r hr
  suffices Gone s from (gone_step hl this hst).1
  by_cases hin : .returned r ∈ s.closes
  · exact h r hin
  · cases step_move hst with
    | reader f | writer f | send f | receive f => rw [f.closes] at hr; exact absurd hr hin
    | control _ m =>
      cases m with
      | watchdog _ _ hcl | abort _ _ hcl => rw [hcl] at hr; exact absurd hr hin
      | close hloc hst =>
        obtain ⟨h0, hc⟩ :=
          (closeStep_returned (hl.closes _ (List.mem_of_getElem? hloc)) hst hr).resolve_left hin
        exact hg.gone h0 hc
      | callClose => exact absurd (by simpa using hr) hin
      | callAbort => exact absurd hr hin
    | callAdmit | callReceive | dropDriver | dropFields => exact absurd hr hin

theorem gone_of_returned (h : Reachable config s) {r : Except DriverError Unit}
    (hr : .returned r ∈ s.closes) : Gone s :=
  (h.invariant (P := fun s => Lifecycle s ∧ Guards s ∧ ∀ r, .returned r ∈ s.closes → Gone s)
    ⟨lifecycle_start config, guards_start config, nofun⟩
    fun _ _ _ hP hst => ⟨(lifecycle_step hP.1 hst).1, guards_step hP.1 hP.2.1 hst,
      returned_step hP.1 hP.2.1 hP.2.2 hst⟩).2.2 r hr

/-- The task whose future is dropped at an await still holds its guard, and gives it back next. -/
theorem readerStep_kill {loc : ReaderLoc} (h : readerStep s loc .kill = some s') :
    s'.reader.loc = .returned ∧ s'.cells = s.cells := by
  cases readerStep_rule h
  exact ⟨rfl, rfl⟩

theorem writerStep_kill {loc : WriterLoc} (h : writerStep s loc .kill = some s') :
    s'.writer.loc = .returned ∧ s'.cells = s.cells := by
  cases writerStep_rule h
  exact ⟨rfl, rfl⟩

/-- What a returned `close` stands for, and the accounts it rests on. -/
structure CloseMeansGone (config : ConnectionConfig) (s : St) : Prop where
  returned : ∀ r, .returned r ∈ s.closes → (∃ e, s.cells.state.value = .closed e) ∧
    s.reader.loc = .finished ∧ s.writer.loc = .finished ∧ ∀ w ∈ s.watchdogs, w = .finished
  /-- No driver task is ever started later. -/
  noneLater : ∀ r, .returned r ∈ s.closes → ∀ ls s', Lts.run (step config) s ls = some s' →
    s'.reader.loc = .finished ∧ s'.writer.loc = .finished ∧ s'.watchdogs = s.watchdogs
  counter : s.cells.tasksRemaining.value = s.guards
  /-- Wherever a guard is about to be dropped, the subtraction does not saturate. -/
  notSaturating : s.reader.loc = .returned ∨ s.writer.loc = .returned ∨ .returned ∈ s.watchdogs ∨
    .earlyReturn ∈ s.closes → 0 < s.cells.tasksRemaining.value
  killedReader : ∀ s', step config s (.reader .kill) = some s' → s'.cells = s.cells ∧
    step config s' (.reader .next) =
      some { s' with reader.loc := .finished, cells := s'.cells.guardDrop }
  killedWriter : ∀ s', step config s (.writer .kill) = some s' → s'.cells = s.cells ∧
    step config s' (.writer .next) =
      some { s' with writer.loc := .finished, cells := s'.cells.guardDrop }
  oneWatchdog : s.watchdogs.length ≤ 1

theorem close_means_gone (h : Reachable config s) : CloseMeansGone config s := by
  have hg := guards_reachable h
  have hc := hg.counter
  simp only [St.guards] at hc
  constructor
  · intro r hr
    have g := gone_of_returned h hr
    exact ⟨g.closed, g.reader, g.writer, g.watchdogs⟩
  · intro r hr ls s' hrun
    have g := (Lts.path_of_run hrun).invariant
      (P := fun t => Lifecycle t ∧ Gone t ∧ t.watchdogs = s.watchdogs)
      (fun _ _ _ ⟨hl, hg, hw⟩ _ hst =>
        have ⟨hg', hw'⟩ := gone_step hl hg hst
        ⟨(lifecycle_step hl hst).1, hg', hw'.trans hw⟩)
      ⟨lifecycle_reachable h, gone_of_returned h hr, rfl⟩
    exact ⟨g.2.1.reader, g.2.1.writer, g.2.2⟩
  · exact hg.counter
  · rintro (hr | hr | hr | hr)
    · rw [hr] at hc; simp only [ReaderLoc.guards] at hc; omega
    · rw [hr] at hc; simp only [WriterLoc.guards] at hc; omega
    · have := Pool.weigh_le_of_mem (f := WatchdogLoc.guards) hr
      simp only [WatchdogLoc.guards] at this
      omega
    · have := Pool.weigh_le_of_mem (f := CloseLoc.guards) hr
      simp only [CloseLoc.guards] at this
      omega
  · intro s' hst
    obtain ⟨hloc, hcells⟩ := readerStep_kill hst
    refine ⟨hcells, ?_⟩
    simp only [step, hloc]
    rfl
  · intro s' hst
    obtain ⟨hloc, hcells⟩ := writerStep_kill hst
    refine ⟨hcells, ?_⟩
    simp only [step, hloc]
    rfl
  · have := hg.one; omega

/-- A local close that the peer answers, and whose call returns. -/
def localCloseRun : List Label :=
  [.callClose, .close 0 .next, .close 0 .next, .close 0 .next, .close 0 .next, .close 0 .next,
    .close 0 .next, .close 0 .next, .close 0 .next,
    .writer .next, .writer .next, .writer .next, .writer .sinkOk,
    .reader .next, .reader .next, .reader (.item (some (.ok (.close (some ⟨1000, ""⟩))))),
    .reader .next, .reader .next, .reader .next, .reader .next, .reader .next, .reader .next,
    .writer .next, .writer .next, .writer .sinkOk, .writer .next, .writer .next, .writer .next,
    .writer .next, .reader .next, .reader .next, .reader .next, .reader .next,
    .watchdog 0 .next, .watchdog 0 .next, .close 0 .next, .close 0 .next]

theorem close_means_gone_localClose :
    CloseMeansGone .tiny (Lts.after (step .tiny) (start .tiny) localCloseRun) ∧
      .returned (.ok ()) ∈ (Lts.after (step .tiny) (start .tiny) localCloseRun).closes :=
  ⟨close_means_gone (Lts.reachable_after rfl), List.mem_cons_self⟩

end FogWS
