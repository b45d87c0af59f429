import Mathlib.Algebra.BigOperators.Group.List.Basic
import Mathlib.Algebra.Order.Ring.Nat
/-!
# Tables of processes

A table of processes is a list; process `i` stands at `ps[i]?`, moves by `ps.set i q`, and a new
one is started by `ps ++ [q]`. The lemmas say what a move does to "every process is ok", to "some
process is there" and to a sum over the table (`weigh`).
-/
namespace Pool

variable {π : Type} {P : π → Prop} {f g : π → Nat} {ps : List π} {i : Nat} {p q x : π}

theorem forall_set (h : ∀ x ∈ ps, P x) (hq : P q) : ∀ x ∈ ps.set i q, P x := by
  intro x hx
  rcases List.mem_or_eq_of_mem_set hx with hx | rfl
  · exact h x hx
  · exact hq

theorem forall_snoc (h : ∀ x ∈ ps, P x) (hq : P q) : ∀ x ∈ ps ++ [q], P x := by
  intro x hx
  rcases List.mem_append.mp hx with hx | hx
  · exact h x hx
  · rw [List.mem_singleton.mp hx]; exact hq

theorem forall_mono {Q : π → Prop} (h : ∀ x ∈ ps, P x) (himp : ∀ x, P x → Q x) : ∀ x ∈ ps, Q x :=
  fun x hx => himp x (h x hx)

theorem mem_set_self (hp : ps[i]? = some p) : q ∈ ps.set i q :=
  List.mem_set (List.getElem?_eq_some_iff.mp hp).1 q

/-- Two descriptions of one move agree. -/
theorem eq_of_set (hp : ps[i]? = some p) (h : ps.set i q = ps.set i x) : q = x := by
  have hi := (List.getElem?_eq_some_iff.mp hp).1
  have := congrArg (·[i]?) h
  simpa [hi] using this

/-- After a move, a process stands where it stood or where the move took it. -/
theorem get_set {j : Nat} (h : (ps.set i q)[j]? = some x) : ps[j]? = some x ∨ i = j ∧ q = x := by
  by_cases hij : i = j
  · subst hij
    have hi : i < ps.length := by simpa using (List.getElem?_eq_some_iff.mp h).1
    rw [List.getElem?_set_self hi, Option.some.injEq] at h
    exact .inr ⟨rfl, h⟩
  · exact .inl (List.getElem?_set_ne hij ▸ h)

theorem get_snoc {j : Nat} (h : (ps ++ [q])[j]? = some x) : ps[j]? = some x ∨ ps.length = j ∧ q = x := by
  by_cases hj : j < ps.length
  · exact .inl (List.getElem?_append_left hj ▸ h)
  · rw [List.getElem?_append_right (Nat.le_of_not_lt hj), List.getElem?_singleton] at h
    split at h
    · exact .inr ⟨by omega, Option.some.inj h⟩
    · cases h

/-- A witness other than the process that moves is still there. -/
theorem exists_set (h : ∃ x ∈ ps, P x) (hp : ps[i]? = some p) (hnp : P p → P q) :
    ∃ x ∈ ps.set i q, P x := by
  obtain ⟨x, hx, hP⟩ := h
  obtain ⟨j, hj⟩ := List.mem_iff_getElem?.mp hx
  by_cases hij : i = j
  · subst hij
    rw [hp, Option.some.injEq] at hj
    subst hj
    exact ⟨q, mem_set_self hp, hnp hP⟩
  · exact ⟨x, List.mem_iff_getElem?.mpr ⟨j, by rw [List.getElem?_set_ne hij]; exact hj⟩, hP⟩

/-- Either the witness is the process that moves, or it is still there. -/
theorem exists_set_or (h : ∃ x ∈ ps, P x) (hp : ps[i]? = some p) :
    P p ∨ ∃ x ∈ ps.set i q, P x := by
  by_cases hP : P p
  · exact .inl hP
  · exact .inr (exists_set h hp (fun h => absurd h hP))

theorem exists_snoc (h : ∃ x ∈ ps, P x) : ∃ x ∈ ps ++ [q], P x := by
  obtain ⟨x, hx, hP⟩ := h
  exact ⟨x, List.mem_append_left _ hx, hP⟩

/-- The sum of `f` over the table. -/
def weigh (f : π → Nat) (ps : List π) : Nat := (ps.map f).sum

@[simp] theorem weigh_nil : weigh f [] = 0 := rfl

@[simp] theorem weigh_cons : weigh f (p :: ps) = f p + weigh f ps := by simp [weigh]

@[simp] theorem weigh_append (ps qs : List π) : weigh f (ps ++ qs) = weigh f ps + weigh f qs := by
  simp [weigh]

/-- The weight of a move, without subtraction. -/
theorem weigh_set (hp : ps[i]? = some p) (q : π) : weigh f (ps.set i q) + f p = weigh f ps + f q := by
  induction ps generalizing i with
  | nil => simp at hp
  | cons x xs ih =>
    cases i with
    | zero =>
      simp only [List.getElem?_cons_zero, Option.some.injEq] at hp
      subst hp
      simp only [List.set_cons_zero, weigh_cons]; omega
    | succ i =>
      have := ih (i := i) (by simpa using hp)
      simp only [List.set_cons_succ, weigh_cons]; omega

theorem weigh_le_of_mem (h : p ∈ ps) : f p ≤ weigh f ps := by
  induction ps with
  | nil => cases h
  | cons x xs ih =>
    rw [weigh_cons]
    rcases List.mem_cons.mp h with rfl | h
    · omega
    · have := ih h; omega

theorem weigh_le_of_get (h : ps[i]? = some p) : f p ≤ weigh f ps :=
  weigh_le_of_mem (List.mem_of_getElem? h)

theorem weigh_mono (ps : List π) (h : ∀ x ∈ ps, f x ≤ g x) : weigh f ps ≤ weigh g ps := by
  induction ps with
  | nil => simp
  | cons x xs ih =>
    have hx := h x List.mem_cons_self
    have := ih (fun y hy => h y (List.mem_cons_of_mem _ hy))
    simp only [weigh_cons]; omega

theorem weigh_eq_zero (h : ∀ x ∈ ps, f x = 0) : weigh f ps = 0 := by
  induction ps with
  | nil => rfl
  | cons x xs ih =>
    rw [weigh_cons, h x List.mem_cons_self, ih fun y hy => h y (List.mem_cons_of_mem _ hy)]

theorem eq_zero_of_weigh (h : weigh f ps = 0) (hp : p ∈ ps) : f p = 0 := by
  have := weigh_le_of_mem (f := f) hp; omega

/-- If no other process has any weight, one process has all of it. -/
theorem weigh_of_others (hp : ps[i]? = some p) (h : ∀ j x, j ≠ i → ps[j]? = some x → f x = 0) :
    weigh f ps = f p := by
  induction ps generalizing i with
  | nil => simp at hp
  | cons x xs ih =>
    rw [weigh_cons]
    cases i with
    | zero =>
      obtain rfl : x = p := by simpa using hp
      have hrest : weigh f xs = 0 := weigh_eq_zero fun y hy => by
        obtain ⟨j, hj⟩ := List.mem_iff_getElem?.mp hy
        exact h (j + 1) y (Nat.succ_ne_zero j) (by simpa using hj)
      omega
    | succ i =>
      have hx := h 0 x (Nat.succ_ne_zero i).symm rfl
      have hrest := ih (i := i) (by simpa using hp) fun j y hj hy =>
        h (j + 1) y (by omega) (by simpa using hy)
      omega

/-- If one process has all the weight, it has all of every weight that the others lack with it. -/
theorem weigh_of_weigh (hf : ∀ x, f x = 0 → g x = 0) (hp : ps[i]? = some p) (hw : weigh f ps = f p) :
    weigh g ps = g p := by
  induction ps generalizing i with
  | nil => simp at hp
  | cons x xs ih =>
    rw [weigh_cons] at hw ⊢
    cases i with
    | zero =>
      obtain rfl : x = p := by simpa using hp
      have hrest : weigh f xs = 0 := by omega
      rw [weigh_eq_zero fun y hy => hf y (eq_zero_of_weigh hrest hy), Nat.add_zero]
    | succ i =>
      have hp' : xs[i]? = some p := by simpa using hp
      have := weigh_le_of_get (f := f) hp'
      rw [hf x (by omega), ih hp' (by omega), Nat.zero_add]

/-! ## What the processes hold, in the order of the table -/

variable {β : Type} {h : π → List β}

theorem flatMap_set (hp : ps[i]? = some p) (hq : h q = h p) : (ps.set i q).flatMap h = ps.flatMap h := by
  induction ps generalizing i with
  | nil => rfl
  | cons x xs ih =>
    cases i with
    | zero =>
      obtain rfl : x = p := by simpa using hp
      simp [hq]
    | succ i => simp [ih (i := i) (by simpa using hp)]

/-- What a process that held nothing comes to hold is held besides the rest. -/
theorem flatMap_set_perm (hp : ps[i]? = some p) (hn : h p = []) (q : π) :
    ((ps.set i q).flatMap h).Perm (ps.flatMap h ++ h q) := by
  induction ps generalizing i with
  | nil => simp at hp
  | cons x xs ih =>
    cases i with
    | zero =>
      obtain rfl : x = p := by simpa using hp
      simp only [List.set_cons_zero, List.flatMap_cons, hn, List.nil_append]
      exact List.perm_append_comm
    | succ i =>
      simp only [List.set_cons_succ, List.flatMap_cons, List.append_assoc]
      exact (ih (i := i) (by simpa using hp)).append_left (h x)

theorem flatMap_of_weigh_eq_zero (hf : ∀ x, f x = 0 → h x = []) (hw : weigh f ps = 0) :
    ps.flatMap h = [] :=
  List.flatMap_eq_nil_iff.mpr fun x hx => hf x (eq_zero_of_weigh hw hx)

/-- If one process has all the weight, it holds all there is. -/
theorem flatMap_of_weigh (hf : ∀ x, f x = 0 → h x = []) (hp : ps[i]? = some p) (hw : weigh f ps = f p) :
    ps.flatMap h = h p := by
  induction ps generalizing i with
  | nil => simp at hp
  | cons x xs ih =>
    rw [weigh_cons] at hw
    cases i with
    | zero =>
      obtain rfl : x = p := by simpa using hp
      rw [List.flatMap_cons, flatMap_of_weigh_eq_zero hf (by omega), List.append_nil]
    | succ i =>
      have hp' : xs[i]? = some p := by simpa using hp
      have := weigh_le_of_get (f := f) hp'
      rw [List.flatMap_cons, hf x (by omega), ih hp' (by omega), List.nil_append]

end Pool
