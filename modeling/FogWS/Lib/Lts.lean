import Mathlib.Data.List.Infix
/-!
# Runs of a labelled step function

A system is a step function `σ → ℓ → Option σ`: `none` says that the label is not enabled.
`run` executes a list of labels; `Path` is the same run as a relation, with a side condition
`ok` that every step of it meets. The rules below are the only inductions over runs in this
development:

* `Path.invariant`: what every step keeps, a run keeps;
* `Path.relation`: what every step relates (transitively), the ends of a run are related by;
* `Path.length_le`: a measure that every step lowers bounds the length of a run;
* `trace_eq`: a log that every step appends to is what the run emits;
* `share_eq`: what the steps of one process add to a quantity that others change too;
* `run_filter`, `run_map`, `run_rename`: what a run is once a part of the state is forgotten;
* `observe_run_iff`: an observer beside the system disturbs no run of it;
* `run_trace`: what a run emits is a run of the specification its steps emit runs of.
-/
namespace Lts

variable {σ ℓ : Type}

/-- Execute the labels from left to right. -/
def run (step : σ → ℓ → Option σ) : σ → List ℓ → Option σ
  | s, [] => some s
  | s, l :: ls => (step s l).bind (run step · ls)

/-- The state after the labels, if they are a run. -/
def after (step : σ → ℓ → Option σ) (s : σ) (ls : List ℓ) : σ := (run step s ls).getD s

/-- The run of `ls` from the first state to the last, every step of which meets `ok`. -/
inductive Path (step : σ → ℓ → Option σ) (ok : σ → ℓ → Prop) : σ → List ℓ → σ → Prop
  | nil (s : σ) : Path step ok s [] s
  | cons {s t u : σ} {l : ℓ} {ls : List ℓ} :
      ok s l → step s l = some t → Path step ok t ls u → Path step ok s (l :: ls) u

/-- A state some run reaches from `init`. -/
def Reachable (step : σ → ℓ → Option σ) (init s : σ) : Prop := ∃ ls, run step init ls = some s

/-- What the steps labelled `mine` add to `f` along the run of `ls`. -/
def share (step : σ → ℓ → Option σ) (mine : ℓ → Bool) (f : σ → Int) : σ → List ℓ → Int
  | _, [] => 0
  | s, l :: ls =>
    match step s l with
    | none => 0
    | some t => (if mine l then f t - f s else 0) + share step mine f t ls

/-- What the steps of a run emit, in order. -/
def trace {α : Type} (step : σ → ℓ → Option σ) (emit : σ → ℓ → List α) : σ → List ℓ → List α
  | _, [] => []
  | s, l :: ls =>
    match step s l with
    | none => []
    | some t => emit s l ++ trace step emit t ls

/-- The system with an observer beside it, who sees every step from the state it is taken in. -/
def observe {γ : Type} (step : σ → ℓ → Option σ) (note : γ → σ → ℓ → γ) (sg : σ × γ) (l : ℓ) :
    Option (σ × γ) :=
  (step sg.1 l).map (·, note sg.2 sg.1 l)

variable {step : σ → ℓ → Option σ} {ok : σ → ℓ → Prop} {s t u : σ} {l : ℓ} {ls : List ℓ}

theorem run_cons : run step s (l :: ls) = (step s l).bind (run step · ls) := rfl

theorem run_append (s : σ) (as bs : List ℓ) :
    run step s (as ++ bs) = (run step s as).bind (run step · bs) := by
  induction as generalizing s with
  | nil => rfl
  | cons a as ih =>
    simp only [List.cons_append, run_cons, Option.bind_assoc]
    cases step s a with
    | none => rfl
    | some t => exact ih t

namespace Path

theorem single (hok : ok s l) (h : step s l = some t) : Path step ok s [l] t := .cons hok h (.nil t)

theorem run_eq (h : Path step ok s ls u) : run step s ls = some u := by
  induction h with
  | nil _ => rfl
  | cons _ hst _ ih => simp [run_cons, hst, ih]

/-- A path of some of the labels is a run. -/
theorem run_map {κ : Type} {g : κ → ℓ} {okg : σ → κ → Prop} {ks : List κ}
    (h : Path (fun s k => step s (g k)) okg s ks u) : run step s (ks.map g) = some u := by
  induction h with
  | nil _ => rfl
  | cons _ hst _ ih => simp [run_cons, hst, ih]

/-- **Invariant rule.** What every step keeps, a run keeps. -/
theorem invariant {P : σ → Prop} (hstep : ∀ s l t, P s → ok s l → step s l = some t → P t)
    (h : Path step ok s ls u) (hs : P s) : P u := by
  induction h with
  | nil _ => exact hs
  | cons hok hst _ ih => exact ih (hstep _ _ _ hs hok hst)

/-- **Relation rule.** Along states that meet `P`, a reflexive and transitive relation that holds
across every step holds across the run. -/
theorem relation {P : σ → Prop} {R : σ → σ → Prop} (hrefl : ∀ s, R s s)
    (htrans : ∀ a b c, R a b → R b c → R a c)
    (hstep : ∀ s l t, P s → ok s l → step s l = some t → P t ∧ R s t)
    (h : Path step ok s ls u) (hs : P s) : R s u := by
  induction h with
  | nil s => exact hrefl s
  | cons hok hst _ ih =>
    obtain ⟨hP, hR⟩ := hstep _ _ _ hs hok hst
    exact htrans _ _ _ hR (ih hP)

/-- **Measure rule.** Along states that meet `P`, a measure that every step lowers bounds the
number of steps. -/
theorem length_le {P : σ → Prop} (μ : σ → Nat)
    (hstep : ∀ s l t, P s → ok s l → step s l = some t → P t ∧ μ t < μ s)
    (h : Path step ok s ls u) (hs : P s) : ls.length + μ u ≤ μ s := by
  induction h with
  | nil _ => simp
  | cons hok hst _ ih =>
    obtain ⟨hP, hlt⟩ := hstep _ _ _ hs hok hst
    have := ih hP
    simp only [List.length_cons]
    omega

/-- The labels of a path may be asked for more. -/
theorem restrict {Q : ℓ → Prop} (h : Path step ok s ls u) (hQ : ∀ l ∈ ls, Q l) :
    Path step (fun s l => ok s l ∧ Q l) s ls u := by
  induction h with
  | nil s => exact .nil s
  | cons hok hst _ ih =>
    exact .cons ⟨hok, hQ _ List.mem_cons_self⟩ hst (ih fun l hl => hQ l (List.mem_cons_of_mem _ hl))

/-- The first part of a path is a path. -/
theorem initial {as : List ℓ} (h : Path step ok s ls u) (hp : as <+: ls) (hr : run step s as = some t) :
    Path step ok s as t := by
  induction h generalizing as with
  | nil s =>
    obtain rfl := List.prefix_nil.mp hp
    cases hr; exact .nil _
  | cons hok hst _ ih =>
    cases as with
    | nil => cases hr; exact .nil _
    | cons a as =>
      obtain ⟨rfl, hrest⟩ := List.cons_prefix_cons.mp hp
      rw [run_cons, hst] at hr
      exact .cons hok hst (ih hrest hr)

/-- The condition holds where the run takes the step. -/
theorem ok_at {as bs : List ℓ} (h : Path step ok s (as ++ l :: bs) u) (hr : run step s as = some t) :
    ok t l := by
  induction as generalizing s with
  | nil => cases hr; cases h; assumption
  | cons a as ih =>
    cases h with
    | cons _ hst hrest =>
      rw [run_cons, hst] at hr
      exact ih hrest hr

end Path

/-- A run every step of which meets `ok`, as a statement about its first parts. -/
theorem path_of_initial (h : run step s ls = some u)
    (hok : ∀ as l t t', as ++ [l] <+: ls → run step s as = some t → step t l = some t' → ok t l) :
    Path step ok s ls u := by
  induction ls generalizing s with
  | nil => cases h; exact .nil _
  | cons l ls ih =>
    rw [run_cons] at h
    obtain ⟨t, hst, ht⟩ := Option.bind_eq_some_iff.mp h
    refine .cons (hok [] l s t (by simp) rfl hst) hst (ih ht fun as l' t₁ t₂ hp hr hs => ?_)
    refine hok (l :: as) l' t₁ t₂ ?_ ?_ hs
    · exact List.cons_prefix_cons.mpr ⟨rfl, hp⟩
    · rw [run_cons, hst]; exact hr

/-- What is left of a run after its first part is a run. -/
theorem run_rest {as : List ℓ} (h : run step s ls = some u) (hp : as <+: ls)
    (hr : run step s as = some t) : ∃ bs, run step t bs = some u := by
  obtain ⟨bs, rfl⟩ := hp
  rw [run_append, hr] at h
  exact ⟨bs, h⟩

/-- A run whose labels meet a condition is a path. -/
theorem path_of_labels {Q : ℓ → Prop} (h : run step s ls = some u) (hQ : ∀ l ∈ ls, Q l) :
    Path step (fun _ l => Q l) s ls u :=
  path_of_initial h fun as l _ _ hp _ _ =>
    hQ l (hp.subset (List.mem_append_right as (List.mem_singleton_self l)))

/-- A run that meets no condition is a path. -/
theorem path_of_run (h : run step s ls = some u) : Path step (fun _ _ => True) s ls u :=
  path_of_labels h fun _ _ => trivial

/-- What every label has that a state of `P` enables, every label of a run from such a state has. -/
theorem forall_of_run {P : σ → Prop} {Q : ℓ → Prop}
    (hstep : ∀ s l t, P s → step s l = some t → P t ∧ Q l) (hs : P s) (h : run step s ls = some u) :
    ∀ l ∈ ls, Q l := by
  induction ls generalizing s with
  | nil => exact fun _ hl => by cases hl
  | cons l ls ih =>
    rw [run_cons] at h
    obtain ⟨t, hst, ht⟩ := Option.bind_eq_some_iff.mp h
    obtain ⟨hP, hQ⟩ := hstep s l t hs hst
    intro x hx
    rcases List.mem_cons.mp hx with rfl | hx
    · exact hQ
    · exact ih hP ht x hx

theorem run_after (h : (run step s ls).isSome) : run step s ls = some (after step s ls) := by
  obtain ⟨t, ht⟩ := Option.isSome_iff_exists.mp h
  rw [after, ht]; rfl

theorem reachable_after {init : σ} (h : (run step init ls).isSome) :
    Reachable step init (after step init ls) :=
  ⟨ls, run_after h⟩

theorem Reachable.start : Reachable step s s := ⟨[], rfl⟩

theorem Reachable.trans {init : σ} (hs : Reachable step init s) (h : Path step ok s ls u) :
    Reachable step init u := by
  obtain ⟨as, ha⟩ := hs
  exact ⟨as ++ ls, by rw [run_append, ha]; exact h.run_eq⟩

theorem Reachable.next {init : σ} (hs : Reachable step init s) (h : step s l = some t) :
    Reachable step init t :=
  have hp : Path step (fun _ _ => True) s [l] t := .single trivial h
  hs.trans hp

/-- **History rule.** What holds of the empty run, and of a longer run if it holds of a shorter one, holds of
every run and its end. -/
theorem run_history {init : σ} {P : List ℓ → σ → Prop} (hinit : P [] init)
    (hstep : ∀ as s l t, run step init as = some s → P as s → step s l = some t → P (as ++ [l]) t)
    (h : run step init ls = some s) : P ls s := by
  induction ls using List.reverseRecOn generalizing s with
  | nil => cases h; exact hinit
  | append_singleton as l ih =>
    rw [run_append] at h
    obtain ⟨r, hr, h⟩ := Option.bind_eq_some_iff.mp h
    rw [run_cons] at h
    obtain ⟨t, hst, ht⟩ := Option.bind_eq_some_iff.mp h
    cases ht
    exact hstep as r l _ hr (ih hr) hst

/-- What holds initially and is kept by every step holds in every reachable state. -/
theorem Reachable.invariant {init : σ} {P : σ → Prop} (hinit : P init)
    (hstep : ∀ s l t, P s → step s l = some t → P t) (hs : Reachable step init s) : P s := by
  obtain ⟨ls, h⟩ := hs
  exact (path_of_run h).invariant (fun s l t hP _ => hstep s l t hP) hinit

/-- **Trace rule.** If every step appends to `f` what it emits, then so does the run. -/
theorem trace_eq {α : Type} {emit : σ → ℓ → List α} {f : σ → List α}
    (hstep : ∀ s l t, step s l = some t → f t = f s ++ emit s l) (h : run step s ls = some u) :
    f u = f s ++ trace step emit s ls := by
  induction ls generalizing s with
  | nil => cases h; exact (List.append_nil _).symm
  | cons l ls ih =>
    rw [run_cons] at h
    obtain ⟨t, hst, ht⟩ := Option.bind_eq_some_iff.mp h
    simp only [trace, hst]
    rw [ih ht, hstep s l t hst, List.append_assoc]

/-- **Share rule.** If the steps of a process change `f` as they change its own account `g`, which
no other step changes, then the account tells what the process has added to `f`. `P` holds at the
end of the run, and at the start of every step whose end meets it. -/
theorem share_eq {mine : ℓ → Bool} {f : σ → Int} (g : σ → Int) {P : σ → Prop}
    (hstep : ∀ s l t, step s l = some t → P t →
      P s ∧ (mine l = true → f t - f s = g t - g s) ∧ (mine l = false → g t = g s))
    (h : run step s ls = some u) (hu : P u) : P s ∧ share step mine f s ls = g u - g s := by
  induction ls generalizing s with
  | nil => cases h; exact ⟨hu, by simp [share]⟩
  | cons l ls ih =>
    rw [run_cons] at h
    obtain ⟨t, hst, ht⟩ := Option.bind_eq_some_iff.mp h
    obtain ⟨hP, hrest⟩ := ih ht
    obtain ⟨hP', hm, ho⟩ := hstep s l t hst hP
    refine ⟨hP', ?_⟩
    simp only [share, hst, hrest]
    cases hl : mine l with
    | true => rw [if_pos rfl, hm hl]; omega
    | false => rw [if_neg Bool.false_ne_true, ho hl]; omega

/-- **Projection rule.** If `f` forgets what the steps outside `keep` do, and keeps every other step
a step, then a run without the former is a run of what is left. -/
theorem run_filter {keep : ℓ → Bool} {f : σ → σ} {P : σ → Prop}
    (hstep : ∀ s l t, P s → step s l = some t →
      P t ∧ (keep l = true → step (f s) l = some (f t)) ∧ (keep l = false → f t = f s))
    (hs : P s) (h : run step s ls = some u) : run step (f s) (ls.filter keep) = some (f u) := by
  induction ls generalizing s with
  | nil => cases h; rfl
  | cons l ls ih =>
    rw [run_cons] at h
    obtain ⟨t, hst, ht⟩ := Option.bind_eq_some_iff.mp h
    obtain ⟨hP, hkeep, hdrop⟩ := hstep s l t hs hst
    have hrest := ih hP ht
    cases hl : keep l with
    | true => rw [List.filter_cons_of_pos hl, run_cons, hkeep hl]; exact hrest
    | false => rw [List.filter_cons_of_neg (by simp [hl]), ← hdrop hl]; exact hrest

/-- **Commutation rule.** If every step that `ok` allows commutes with `f`, every run of them does. -/
theorem run_map {f : σ → σ} {P : σ → Prop} {ok : ℓ → Prop}
    (hstep : ∀ s l, P s → ok l → step (f s) l = (step s l).map f)
    (hkeep : ∀ s l t, P s → step s l = some t → P t) (hs : P s) (hls : ∀ l ∈ ls, ok l) :
    run step (f s) ls = (run step s ls).map f := by
  induction ls generalizing s with
  | nil => rfl
  | cons l ls ih =>
    rw [run_cons, run_cons, hstep s l hs (hls l List.mem_cons_self)]
    cases hst : step s l with
    | none => rfl
    | some t => exact ih (hkeep s l t hs hst) fun l hl => hls l (List.mem_cons_of_mem _ hl)

/-- **Renaming rule.** If `f` and `g` rename a state and a label so that every step commutes with them, then so
does every run. -/
theorem run_rename {f : σ → σ} {g : ℓ → ℓ} (hstep : ∀ s l, step (f s) (g l) = (step s l).map f) (s : σ)
    (ls : List ℓ) : run step (f s) (ls.map g) = (run step s ls).map f := by
  induction ls generalizing s with
  | nil => rfl
  | cons l ls ih =>
    rw [List.map_cons, run_cons, run_cons, hstep s l]
    cases step s l with
    | none => rfl
    | some t => exact ih t

/-- **Simulation rule.** If what each step emits takes the specification from the image of where it starts
to the image of where it ends, then what a run emits is a run of the specification. -/
theorem run_trace {τ ε : Type} {spec : τ → ε → Option τ} {emit : σ → ℓ → List ε} (abs : σ → τ)
    (P : σ → Prop) (ok : ℓ → Prop)
    (hstep : ∀ s l t, P s → ok l → step s l = some t →
      P t ∧ run spec (abs s) (emit s l) = some (abs t))
    (hs : P s) (hls : ∀ l ∈ ls, ok l) (h : run step s ls = some u) :
    run spec (abs s) (trace step emit s ls) = some (abs u) := by
  induction ls generalizing s with
  | nil => cases h; rfl
  | cons l ls ih =>
    rw [run_cons] at h
    obtain ⟨t, hst, ht⟩ := Option.bind_eq_some_iff.mp h
    obtain ⟨hP, hemit⟩ := hstep s l t hs (hls l List.mem_cons_self) hst
    simp only [trace, hst]
    rw [run_append, hemit]
    exact ih hP (fun l hl => hls l (List.mem_cons_of_mem _ hl)) ht

section Observe

variable {γ : Type} {note : γ → σ → ℓ → γ} {sg tg : σ × γ} {g : γ}

/-- A step of the observed system is a step, and the note it leaves. -/
theorem observe_eq_some (h : observe step note sg l = some tg) :
    step sg.1 l = some tg.1 ∧ tg.2 = note sg.2 sg.1 l := by
  obtain ⟨t, hst, rfl⟩ := Option.map_eq_some_iff.mp h
  exact ⟨hst, rfl⟩

/-- **Observer rule.** The runs of the observed system are the runs of the system. -/
theorem observe_run_iff :
    (∃ g', run (observe step note) (s, g) ls = some (t, g')) ↔ run step s ls = some t := by
  induction ls generalizing s g with
  | nil =>
    constructor
    · rintro ⟨_, ⟨⟩⟩; rfl
    · rintro ⟨⟩; exact ⟨g, rfl⟩
  | cons l ls ih =>
    rw [run_cons, run_cons, observe]
    cases step s l with
    | none => exact ⟨by rintro ⟨_, ⟨⟩⟩, by rintro ⟨⟩⟩
    | some u => exact ih

/-- What holds of every state of the observed system holds whatever has been noted. -/
theorem Reachable.observed {init : σ} (hs : Reachable (observe step note) (init, g) sg) :
    Reachable step init sg.1 := by
  obtain ⟨ls, h⟩ := hs
  exact ⟨ls, observe_run_iff.mp ⟨sg.2, h⟩⟩

end Observe

end Lts
