import Mathlib.Data.List.Infix
/-!
# Watch channels

A watch channel holds one value; every modification replaces it and raises the version, and a
receiver remembers the version it has seen. `past` keeps the superseded values, newest first, so
the version is its length and "the channel once held `a`" can be said (`Held`). `Rising` channels
are those whose modifications only raise a rank; they hold a value of the highest rank for good.

`Wait` is the loop `while !done(*rx.borrow()) { rx.changed().await }`. `Wait.Ok` says that no
wake-up is lost: a loop parked on the current version has seen a value that is not `done`.
-/

structure Watch (α : Type) where
  value : α
  /-- Superseded values, newest first. -/
  past : List α
  deriving Repr

namespace Watch

variable {α : Type}

/-- `watch::channel(a)`. -/
def channel (a : α) : Watch α := ⟨a, []⟩

def version (w : Watch α) : Nat := w.past.length

/-- Every value the channel has held, newest first. -/
def values (w : Watch α) : List α := w.value :: w.past

/-- The channel holds `a` or held it before. -/
def Held (w : Watch α) (a : α) : Prop := a ∈ w.values

/-- `send_modify`. -/
def sendModify (w : Watch α) (f : α → α) : Watch α := ⟨f w.value, w.value :: w.past⟩

/-- `send_if_modified`: `f` gives the new value, or `none` to leave the channel alone. -/
def sendIfModified (w : Watch α) (f : α → Option α) : Watch α :=
  match f w.value with
  | some a => ⟨a, w.value :: w.past⟩
  | none => w

/-- The channel with every value it has held replaced. -/
def map {β : Type} (f : α → β) (w : Watch α) : Watch β := ⟨f w.value, w.past.map f⟩

/-- `w'` is `w` after any number of modifications. -/
def Ext (w w' : Watch α) : Prop := w.values <:+ w'.values

@[simp] theorem value_sendModify (w : Watch α) (f : α → α) : (w.sendModify f).value = f w.value := rfl

theorem sendIfModified_some {w : Watch α} {f : α → Option α} {a : α} (h : f w.value = some a) :
    w.sendIfModified f = ⟨a, w.value :: w.past⟩ := by
  simp [sendIfModified, h]

theorem sendIfModified_none {w : Watch α} {f : α → Option α} (h : f w.value = none) :
    w.sendIfModified f = w := by
  simp [sendIfModified, h]

/-- The value after `send_if_modified`. -/
theorem value_sendIfModified (w : Watch α) (f : α → Option α) :
    (w.sendIfModified f).value = (f w.value).getD w.value := by
  unfold sendIfModified
  cases f w.value <;> rfl

@[simp] theorem value_map {β : Type} (f : α → β) (w : Watch α) : (w.map f).value = f w.value := rfl

@[simp] theorem version_map {β : Type} (f : α → β) (w : Watch α) : (w.map f).version = w.version :=
  List.length_map f

theorem map_sendIfModified {β : Type} {f : α → β} {g : α → Option α} {g' : β → Option β}
    (h : ∀ a, g' (f a) = (g a).map f) (w : Watch α) :
    (w.map f).sendIfModified g' = (w.sendIfModified g).map f := by
  unfold sendIfModified
  rw [value_map, h]
  cases g w.value <;> rfl

namespace Ext

theorem refl (w : Watch α) : Ext w w := List.suffix_refl _

theorem trans {a b c : Watch α} (h : Ext a b) (h' : Ext b c) : Ext a c := List.IsSuffix.trans h h'

theorem sendModify (w : Watch α) (f : α → α) : Ext w (w.sendModify f) := List.suffix_cons _ _

theorem sendIfModified (w : Watch α) (f : α → Option α) : Ext w (w.sendIfModified f) := by
  unfold Watch.sendIfModified
  split
  · exact List.suffix_cons _ _
  · exact refl w

theorem held {w w' : Watch α} (h : Ext w w') {a : α} (ha : w.Held a) : w'.Held a := h.subset ha

theorem version_le {w w' : Watch α} (h : Ext w w') : w.version ≤ w'.version := by
  have := h.length_le
  simp only [values, List.length_cons] at this
  exact Nat.le_of_succ_le_succ this

/-- No modification went unnoticed: the same version is the same channel. -/
theorem eq_of_version {w w' : Watch α} (h : Ext w w') (hv : w.version = w'.version) : w = w' := by
  have hlen : w.values.length = w'.values.length := by
    simp only [values, List.length_cons, Nat.add_right_cancel_iff]; exact hv
  have := h.eq_of_length hlen
  cases w; cases w'
  simpa [values] using this

end Ext

theorem held_value (w : Watch α) : w.Held w.value := List.mem_cons_self

/-! ## Channels whose values only rise -/

/-- Every modification has raised the rank of the value. -/
def Rising (rank : α → Nat) (w : Watch α) : Prop :=
  w.values.Pairwise fun new old => rank old < rank new

namespace Rising

variable {rank : α → Nat} {w : Watch α}

theorem channel (rank : α → Nat) (a : α) : Rising rank (.channel a) := List.pairwise_singleton _ _

theorem held_le (h : w.Rising rank) {a : α} (ha : w.Held a) : rank a ≤ rank w.value := by
  rcases List.mem_cons.mp ha with rfl | ha
  · exact Nat.le_refl _
  · exact Nat.le_of_lt ((List.pairwise_cons.mp h).1 a ha)

/-- A value of the highest rank is the current one. -/
theorem eq_of_held (h : w.Rising rank) {a : α} (ha : w.Held a) (hr : rank w.value ≤ rank a) :
    a = w.value := by
  rcases List.mem_cons.mp ha with rfl | ha
  · rfl
  · exact absurd ((List.pairwise_cons.mp h).1 a ha) (Nat.not_lt.mpr hr)

theorem sendIfModified (h : w.Rising rank) {f : α → Option α}
    (hf : ∀ a b, f a = some b → rank a < rank b) : (w.sendIfModified f).Rising rank := by
  cases hs : f w.value with
  | none => rw [sendIfModified_none hs]; exact h
  | some b =>
    rw [sendIfModified_some hs]
    refine List.pairwise_cons.mpr ⟨fun a ha => ?_, h⟩
    exact Nat.lt_of_le_of_lt (h.held_le ha) (hf _ _ hs)

/-- There are no more versions than ranks. -/
theorem version_le (h : w.Rising rank) : w.version ≤ rank w.value := by
  obtain ⟨value, past⟩ := w
  induction past generalizing value with
  | nil => exact Nat.zero_le _
  | cons b past ih =>
    have hlt := (List.pairwise_cons.mp h).1 b List.mem_cons_self
    have hle : past.length ≤ rank b := ih b (List.pairwise_cons.mp h).2
    exact Nat.lt_of_le_of_lt hle hlt

end Rising

end Watch

/-! ## Waiting for a value -/

/-- Where `while !done(*rx.borrow()) { rx.changed().await }` stands: about to borrow, or awaiting
`changed()`. The argument is the version the receiver has marked as seen. -/
inductive Wait where
  | check (seen : Nat)
  | changed (seen : Nat)
  deriving DecidableEq, Repr

namespace Wait

variable {α : Type}

/-- One step of the loop. `none`: parked; `some none`: the loop is left; `some (some l)`: it goes on
at `l`. -/
def step (w : Watch α) (done : α → Bool) : Wait → Option (Option Wait)
  | check seen => some (if done w.value then none else some (changed seen))
  | changed seen => if seen < w.version then some (some (check w.version)) else none

/-- A parked loop has seen that the current value is not `done`. -/
def Ok (w : Watch α) (done : α → Bool) : Wait → Prop
  | check seen => seen ≤ w.version
  | changed seen => seen ≤ w.version ∧ (seen = w.version → done w.value = false)

/-- Steps the loop can still take while the version stays at most `bound`. -/
def fuel (bound : Nat) : Wait → Nat
  | check seen => 2 * (bound - seen) + 1
  | changed seen => 2 * (bound - seen)

variable {w w' : Watch α} {done : α → Bool} {l l' : Wait}

theorem step_map {β : Type} {f : α → β} {done' : β → Bool} (h : ∀ a, done' (f a) = done a) :
    l.step (w.map f) done' = l.step w done := by
  cases l with
  | check seen => simp only [step, Watch.value_map, h]
  | changed seen => simp only [step, Watch.version_map]

theorem Ok.ext (hx : w.Ext w') (h : l.Ok w done) : l.Ok w' done := by
  have hle := hx.version_le
  cases l with
  | check seen => exact Nat.le_trans h hle
  | changed seen =>
    refine ⟨Nat.le_trans h.1 hle, fun he => ?_⟩
    have hv : w.version = w'.version := Nat.le_antisymm hle (he ▸ h.1)
    obtain rfl := hx.eq_of_version hv
    exact h.2 he

theorem Ok.step (h : l.Ok w done) (hs : l.step w done = some (some l')) : l'.Ok w done := by
  cases l with
  | check seen =>
    simp only [Wait.step, Option.some.injEq] at hs
    split at hs
    · cases hs
    · rename_i hd
      cases hs
      exact ⟨h, fun _ => by simpa using hd⟩
  | changed seen =>
    simp only [Wait.step] at hs
    split at hs
    · cases hs; exact Nat.le_refl _
    · cases hs

/-- The loop is left only on a `done` value. -/
theorem done_of_exit (hs : l.step w done = some none) : done w.value = true := by
  cases l with
  | check seen =>
    simp only [Wait.step, Option.some.injEq] at hs
    split at hs
    · assumption
    · cases hs
  | changed seen =>
    simp only [Wait.step] at hs
    split at hs <;> cases hs

/-- **No lost wake-up**: once the value is `done`, the loop has a step. -/
theorem Ok.enabled (h : l.Ok w done) (hd : done w.value = true) : (l.step w done).isSome := by
  cases l with
  | check seen => rfl
  | changed seen =>
    have : seen < w.version := by
      rcases Nat.lt_or_eq_of_le h.1 with hlt | heq
      · exact hlt
      · rw [h.2 heq] at hd; cases hd
    simp [Wait.step, this]

/-- Each step of the loop uses up fuel. -/
theorem Ok.fuel_lt {bound : Nat} (hb : w.version ≤ bound) (h : l.Ok w done)
    (hs : l.step w done = some (some l')) : l'.fuel bound < l.fuel bound := by
  cases l with
  | check seen =>
    simp only [Wait.step, Option.some.injEq] at hs
    split at hs
    · cases hs
    · cases hs; simp only [fuel]; omega
  | changed seen =>
    simp only [Wait.step] at hs
    split at hs
    · cases hs; simp only [fuel]; omega
    · cases hs

theorem fuel_mono {b b' : Nat} (hb : b ≤ b') (l : Wait) : l.fuel b ≤ l.fuel b' := by
  cases l <;> simp only [fuel] <;> omega

end Wait
