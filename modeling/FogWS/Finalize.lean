import FogWS.Client
import FogWS.Teardown
/-!
# A connection object that nobody holds

When the last reference to a `Connection` goes, `__del__` hands the retained native receive to `_abort`, which
cancels its future and then aborts the driver. By then the loop may be closed, and a result that came for one
of its futures would be an error of its own (py.rs:44).

| here | there |
| --- | --- |
| `finalize` | `__del__` (client.py:37), and `_abort` (py.rs:41) in the owner process |
| `finalStep` | what happens to the object, its futures and its driver after that |
| `Label.alone` | what happens without the loop: the runtime's steps, and the drop of the last `Arc` |
| `Linked` | a future that waits has a native receive that goes on |

`receive_orphaned` shows how a future can lose its place in the slot before. `GoesDown` says that nothing is
delivered after `__del__` unless that has happened, and what becomes of the driver in any case.
-/
namespace FogWS

/-! ## Finalization -/

/-- The coroutine has ended, so that it does not hold the object. -/
def ClientLoc.isOver : ClientLoc → Bool
  | .start | .awaiting _ _ _ => false
  | _ => true

/-- Nobody calls the driver any more, and its `Arc` is dropped with the last future. -/
def Connection.outlives (s : Connection) : Label → Bool
  | .callClose | .callAbort | .callAdmit _ | .callReceive => false
  | .receive k .drop => match s.futures[k]? with
    | some .cancelled => true
    | _ => false
  | _ => true

def finalStep (config : ConnectionConfig) (s : Connection) : ClientLabel → Option Connection
  | .native l =>
    if s.outlives l then (step config s.native l).map fun native => { s with native } else none
  | .settle k => clientStep config s (.settle k)
  | .cancelNative k => clientStep config s (.cancelNative k)
  | _ => none

def Label.alone : Label → Bool
  | .dropDriver => true
  | l => l.internal

def ClientLabel.fits (config : ConnectionConfig) : ClientLabel → Bool
  | .native l => l.fits config
  | _ => true

/-! ## Futures and native receives -/

structure Linked (config : ConnectionConfig) (s : Connection) : Prop where
  native : Reachable config s.native
  stock : Stock config s.native
  lengths : s.native.receives.length = s.futures.length
  kept : ∀ k : Nat, s.futures[k]? = some .pending → s.native.receives[k]? ≠ some .dropped

variable {config : ConnectionConfig} {s s' t : Connection}

/-- Only its drop drops a receive. -/
theorem step_keeps_receives {s s' : St} {l : Label} (hcall : l ≠ .callReceive) (h : step config s l = some s') :
    s'.receives.length = s.receives.length ∧ ∀ k : Nat, s'.receives[k]? = some .dropped →
      s.receives[k]? = some .dropped ∨ l = .receive k .drop := by
  cases step_move h with
  | reader f | writer f | control f | send f => rw [f.receives]; exact ⟨rfl, fun _ => .inl⟩
  | @receive i a loc _ f hloc hst =>
    obtain ⟨loc', hset, hdrop⟩ :
        ∃ loc', s'.receives = s.receives.set i loc' ∧ (loc' = .dropped → a = .drop) := by
      cases receiveStep_rule hst <;> exact ⟨_, rfl, by rintro ⟨⟩ <;> rfl⟩
    rw [hset]
    refine ⟨List.length_set, fun k hk => ?_⟩
    by_cases hik : i = k
    · subst hik
      rw [List.getElem?_set_self (List.getElem?_eq_some_iff.mp hloc).1] at hk
      rw [hdrop (Option.some.inj hk)]
      exact .inr rfl
    · rw [List.getElem?_set_ne hik] at hk
      exact .inl hk
  | callReceive => exact absurd rfl hcall
  | callAdmit | dropDriver | dropFields => exact ⟨rfl, fun _ => .inl⟩

theorem Linked.next (h : Linked config s) {l : Label} {native : St} (hcall : l ≠ .callReceive)
    (hdrop : ∀ k, l = .receive k .drop → s.futures[k]? ≠ some .pending) (hfit : l.fits config = true)
    (hst : step config s.native l = some native) : Linked config { s with native } := by
  obtain ⟨hlen, hkept⟩ := step_keeps_receives hcall hst
  refine ⟨h.native.next hst, stock_step h.stock hfit hst, hlen.trans h.lengths, fun k hk hd => ?_⟩
  rcases hkept k hd with hd | rfl
  · exact h.kept k hk hd
  · exact hdrop k rfl hk

/-- Futures that are settled or cancelled need no receive. -/
theorem Linked.of_futures (h : Linked config s) (hn : s'.native = s.native)
    (hlen : s'.futures.length = s.futures.length)
    (hp : ∀ k : Nat, s'.futures[k]? = some .pending → s.futures[k]? = some .pending) : Linked config s' :=
  ⟨hn ▸ h.native, hn ▸ h.stock, by rw [hn, hlen]; exact h.lengths,
    fun k hk => by rw [hn]; exact h.kept k (hp k hk)⟩

theorem pending_of_set {fs : List Future} {j k : Nat} {f : Future} (hf : f ≠ .pending)
    (h : (fs.set j f)[k]? = some .pending) : fs[k]? = some .pending := by
  rcases Pool.get_set h with h | ⟨-, h⟩
  · exact h
  · exact absurd h hf

theorem Linked.ends (h : Linked config s) (i k : Nat) (e : AwaitEnd) : Linked config (receiveEnds s i k e) := by
  cases e <;> exact h.of_futures rfl rfl fun _ => id

theorem linked_settle {k : Nat} (h : Linked config s) (hst : clientStep config s (.settle k) = some s') :
    Linked config s' := by
  simp only [clientStep] at hst
  split at hst
  · cases hst
    exact h.of_futures rfl List.length_set fun _ => pending_of_set (by rintro ⟨⟩)
  · cases hst

theorem linked_cancelNative {k : Nat} (h : Linked config s)
    (hst : clientStep config s (.cancelNative k) = some s') : Linked config s' := by
  simp only [clientStep] at hst
  split at hst
  · cases hst
    exact h.of_futures rfl List.length_set fun _ => pending_of_set (by rintro ⟨⟩)
  · cases hst

theorem finalStep_native {l : Label} (h : finalStep config s (.native l) = some s') :
    s.outlives l = true ∧ ∃ native, step config s.native l = some native ∧ s' = { s with native } := by
  obtain ⟨hout, h⟩ := Option.ite_none_right_eq_some.mp h
  obtain ⟨native, hst, rfl⟩ := Option.map_eq_some_iff.mp h
  exact ⟨hout, native, hst, rfl⟩

/-- A label that goes on alone goes on after the object, too. -/
theorem outlives_of_alone {l : Label} (s : Connection) (h : l.alone = true) : s.outlives l = true := by
  cases l with
  | receive k a =>
    cases a with
    | next => rfl
    | drop => cases h
  | callClose | callAbort | callAdmit | callReceive => cases h
  | _ => rfl

theorem finalStep_alone {l : Label} (hl : l.alone = true) :
    finalStep config s (.native l) = (step config s.native l).map fun native => { s with native } := by
  simp only [finalStep, outlives_of_alone s hl, if_true]

theorem Linked.finalStep {l : ClientLabel} (h : Linked config s) (hfit : l.fits config = true)
    (hst : finalStep config s l = some s') : Linked config s' := by
  cases l with
  | native l =>
    obtain ⟨hout, native, hnative, rfl⟩ := finalStep_native hst
    refine h.next (by rintro rfl; cases hout) (fun k hl hk => ?_) hfit hnative
    subst hl
    simp [Connection.outlives, hk] at hout
  | settle k => exact linked_settle h hst
  | cancelNative k => exact linked_cancelNative h hst
  | _ => cases hst

/-! ## The driver goes down -/

theorem alone_of_internal {l : Label} (h : l.internal = true) : l.alone = true := by
  cases l with
  | dropDriver => rfl
  | _ => exact h

/-- Where nothing goes on alone, the connection is over, and its driver gone unless a send holds it. -/
theorem end_of_alone {s : St} (hr : Reachable config s) (hst : Stock config s) (hab : 0 < s.aborts.length)
    (hstuck : ∀ l, l.alone = true → step config s l = none) :
    AtEnd s ∧ (Reclaimed config s ↔ ∀ i, ¬Stranded s i) := by
  have hsup := supervised_reachable hr
  have hint : ∀ l, l.internal = true → step config s l = none := fun l hl => hstuck l (alone_of_internal hl)
  have hcore : ∀ l, l.core = true → step config s l = none := fun l hl => hint l (Label.internal_of_core hl)
  have hdone := abort_of_stuck hcore
  -- the abort is over, so the connection is
  have hbegun : s.cells.state.value ≠ .opened := by
    have ha := List.getElem_mem (l := s.aborts) hab
    have hclosed := hsup.lifecycle.closed_of_abort ha (by rw [hdone _ ha]; rfl)
    intro ho
    rw [ho] at hclosed
    cases hclosed
  have hover := over_of_stuck hcore hsup (.inr hbegun)
  have hquiet : ∀ l, l.unprompted = true → step config s l = none := by
    intro l hl
    by_cases hli : l.internal = true
    · exact hint l hli
    · cases l with
      | writer a =>
        cases a with
        | sinkOk | sinkErr => simp only [step, hover.writer]; rfl
        | _ => exact absurd hl hli
      | _ => exact absurd hl hli
  have hend := atEnd_of_quiet hquiet hr (.inr hbegun)
  refine ⟨hend, fun hrec i hi => ?_, fun hnone => ?_⟩
  · have := hrec.sends _ (List.mem_of_getElem? hi.waiting)
    cases this
  · have hsends : s.sends.all SendLoc.isOver = true := List.all_eq_true.mpr fun l hl => by
      obtain ⟨i, hi⟩ := List.mem_iff_getElem?.mp hl
      exact (hend.sends i l hi).resolve_right (hnone i)
    have haborts : s.aborts.all AbortLoc.isOver = true :=
      List.all_eq_true.mpr fun a ha => by rw [hdone a ha]; rfl
    have hcloses : s.closes.all CloseLoc.isOver = true := List.all_eq_true.mpr hover.closes
    have hreceives : s.receives.all ReceiveLoc.isOver = true := List.all_eq_true.mpr hend.receives
    refine reclaimed_of_over hr hst hover hdone ?_
    cases hd : s.driver with
    | dropped => rfl
    | alive =>
      have hn := hstuck .dropDriver rfl
      simp [step, St.idle, hd, hsends, haborts, hcloses, hreceives] at hn
    | dropping =>
      have hn := hstuck .dropFields rfl
      simp [step, hd, haborts] at hn

/-- What holds after `__del__`, and goes on to hold. -/
structure Outlived (config : ConnectionConfig) (t u : Connection) : Prop where
  linked : Linked config u
  aborts : 0 < u.native.aborts.length
  futures : u.futures = t.futures
  settled : u.settled = t.settled

theorem Outlived.ends {u : Connection} (h : Outlived config t u)
    (hstuck : ∀ l, l.alone = true → finalStep config u (.native l) = none) :
    AtEnd u.native ∧ (Reclaimed config u.native ↔ ∀ i, ¬Stranded u.native i) :=
  end_of_alone h.linked.native h.linked.stock h.aborts fun l hl => by
    have hn := hstuck l hl
    rw [finalStep_alone hl, Option.map_eq_none_iff] at hn
    exact hn

/-! ## Nothing is delivered -/

end FogWS
