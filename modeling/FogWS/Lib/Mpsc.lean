/-!
# Bounded channels with reserved slots

`Mpsc α` is a bounded multi-producer queue whose slots are permits of a semaphore: `tryReserve`
takes a slot, `push` fills a slot taken before, `recv` takes the oldest value out and gives its slot
back. Dropping the receiver closes the semaphore and drops what is queued at that moment; a slot
taken earlier may still be filled afterwards, and then the value stays in the channel.

`load` counts the slots that are free or filled: with the slots taken and not yet filled it adds up
to the capacity, whatever the operations.
-/

inductive TrySendError where
  | full
  | closed
  deriving DecidableEq, Repr

structure Mpsc (α : Type) where
  /-- Slots neither taken nor filled. -/
  free : Nat
  /-- Oldest first. -/
  queue : List α
  /-- The receiver is gone. -/
  closed : Bool
  deriving Repr

namespace Mpsc

variable {α : Type}

/-- `mpsc::channel(capacity)`. -/
def channel (capacity : Nat) : Mpsc α := ⟨capacity, [], false⟩

/-- `try_reserve_owned`: a closed channel is reported before a full one. -/
def tryReserve (c : Mpsc α) : Except TrySendError (Mpsc α) :=
  if c.closed then .error .closed
  else if c.free = 0 then .error .full
  else .ok { c with free := c.free - 1 }

/-- `OwnedPermit::send`: fill a slot taken before. -/
def push (c : Mpsc α) (a : α) : Mpsc α := { c with queue := c.queue ++ [a] }

/-- Dropping a permit that was not used. -/
def release (c : Mpsc α) : Mpsc α := { c with free := c.free + 1 }

/-- `try_send`: take a slot and fill it at once. -/
def trySend (c : Mpsc α) (a : α) : Except TrySendError (Mpsc α) :=
  c.tryReserve.map (·.push a)

/-- The oldest value and the channel without it; `none` when nothing is queued. -/
def recv (c : Mpsc α) : Option (α × Mpsc α) :=
  match c.queue with
  | [] => none
  | a :: as => some (a, { c with queue := as, free := c.free + 1 })

/-- Dropping the receiver. -/
def dropReceiver (c : Mpsc α) : Mpsc α := ⟨c.free + c.queue.length, [], true⟩

/-- Slots free or filled. -/
def load (c : Mpsc α) : Nat := c.free + c.queue.length

@[simp] theorem load_push (c : Mpsc α) (a : α) : (c.push a).load = c.load + 1 := by
  simp [load, push]; omega

theorem tryReserve_ok {c c' : Mpsc α} (h : c.tryReserve = .ok c') :
    c.closed = false ∧ 0 < c.free ∧ c' = { c with free := c.free - 1 } := by
  unfold tryReserve at h
  split at h
  · cases h
  · split at h
    · cases h
    · cases h
      exact ⟨by simpa using ‹¬c.closed = true›, by omega, rfl⟩

theorem tryReserve_closed {c : Mpsc α} (h : c.tryReserve = .error .closed) : c.closed = true := by
  unfold tryReserve at h
  split at h
  · assumption
  · split at h <;> cases h

theorem tryReserve_full {c : Mpsc α} (h : c.tryReserve = .error .full) : c.free = 0 := by
  unfold tryReserve at h
  split at h
  · cases h
  · split at h
    · assumption
    · cases h

theorem trySend_ok {c c' : Mpsc α} {a : α} (h : c.trySend a = .ok c') :
    c.closed = false ∧ 0 < c.free ∧ c' = { c with free := c.free - 1, queue := c.queue ++ [a] } := by
  unfold trySend at h
  cases hr : c.tryReserve with
  | error e => simp [hr, Except.map] at h
  | ok d =>
    obtain ⟨hc, hf, rfl⟩ := tryReserve_ok hr
    simp only [hr, Except.map, push, Except.ok.injEq] at h
    exact ⟨hc, hf, h.symm⟩

theorem trySend_closed {c : Mpsc α} {a : α} (h : c.trySend a = .error .closed) : c.closed = true := by
  unfold trySend at h
  cases hr : c.tryReserve with
  | ok d => rw [hr] at h; cases h
  | error e => rw [hr] at h; cases h; exact tryReserve_closed hr

/-- With a free slot, a living receiver takes the value. -/
theorem trySend_of_free {c : Mpsc α} (hc : c.closed = false) (hf : 0 < c.free) (a : α) :
    c.trySend a = .ok { c with free := c.free - 1, queue := c.queue ++ [a] } := by
  have hne : c.free ≠ 0 := Nat.ne_of_gt hf
  simp only [trySend, tryReserve, hc, hne, if_false, Bool.false_eq_true, Except.map, push]

theorem trySend_of_closed {c : Mpsc α} (hc : c.closed = true) (a : α) :
    c.trySend a = .error .closed := by
  simp only [trySend, tryReserve, hc, if_true, Except.map]

theorem recv_some {c c' : Mpsc α} {a : α} (h : c.recv = some (a, c')) :
    c.queue = a :: c'.queue ∧ c'.free = c.free + 1 ∧ c'.closed = c.closed := by
  unfold recv at h
  split at h
  · cases h
  · rename_i hq
    simp only [Option.some.injEq, Prod.mk.injEq] at h
    obtain ⟨rfl, rfl⟩ := h
    exact ⟨hq, rfl, rfl⟩

theorem load_recv {c c' : Mpsc α} {a : α} (h : c.recv = some (a, c')) : c'.load = c.load := by
  obtain ⟨hq, hf, -⟩ := recv_some h
  simp only [load, hq, hf, List.length_cons]; omega

@[simp] theorem recv_eq_none {c : Mpsc α} : c.recv = none ↔ c.queue = [] := by
  unfold recv
  split <;> simp_all

end Mpsc
