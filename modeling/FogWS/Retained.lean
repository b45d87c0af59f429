import FogWS.Client
import FogWS.Delivery
/-!
# The retained native receive

`Connection.receive()` keeps the one native receive that has not been delivered in `_pending_receive`, so
that a waiter that is cancelled leaves it to the next call (client.py:61). The arm for every other
exception clears the slot (client.py:65): right for an error of the native receive itself, wrong for an
exception thrown into the coroutine while the native receive is unfinished.

| here | there |
| --- | --- |
| `Recorded` | what the slot, the flag and the futures have to do with each other |
| `ClientLabel.throw` | `close()` of the coroutine, or `throw()` with anything but a `CancelledError` |
| `KeepsReceive` | nothing is thrown into a coroutine whose native receive is unfinished |
| `NoOrphan` | every unfinished native receive is the one in the slot |

A `CancelledError` thrown into the coroutine takes the arm of `.cancel` followed by `.resume`.
-/
namespace FogWS

/-! ## The native receives -/

/-- An error of a native receive is a terminal error of the driver. -/
def ReceiveLoc.Fair : ReceiveLoc → Prop
  | .finish (.error e) | .returned (.error e) => e.Genuine
  | _ => True

/-- The message a native receive has returned. -/
def ReceiveLoc.message : ReceiveLoc → List InboundMessage
  | .returned (.ok message) => [message]
  | _ => []

variable {config : ConnectionConfig}

/-- A native receive that finds the slot free returns a message, or the terminal error. -/
theorem receiveStep_fair {s s' : St} {k : Nat} {loc : ReceiveLoc} {a : CallAct}
    (hfree : loc = .start → s.inbound.receiveActive = false) (hloc : loc.Fair)
    (hterm : loc = .terminal → (terminalError s.cells.state.value).Genuine)
    (h : receiveStep s k loc a = some s') : ∃ loc', s'.receives = s.receives.set k loc' ∧ loc'.Fair ∧
      s'.hist.returned = s.hist.returned ++ loc'.message := by
  have hnone : s.hist.returned = s.hist.returned ++ [] := (List.append_nil _).symm
  cases receiveStep_rule h with
  | busy hact => rw [hfree rfl] at hact; cases hact
  | terminal => exact ⟨.finish _, rfl, hterm rfl, hnone⟩
  | deliver m => exact ⟨.returned (.ok m), rfl, trivial, rfl⟩
  | fail e => exact ⟨.returned (.error e), rfl, hloc, hnone⟩
  | _ => exact ⟨_, rfl, trivial, hnone⟩

/-- The other steps of the driver that a connection allows leave its receives alone. -/
theorem step_receives {s s' : St} {l : Label} {c : Connection} (hl : c.allows l = true)
    (hr : ∀ k a, l ≠ .receive k a) (h : step config s l = some s') :
    s'.receives = s.receives ∧ s'.hist.returned = s.hist.returned ∧ s'.driver = s.driver := by
  cases step_move h with
  | reader f | writer f => exact ⟨f.receives, f.returned, f.driver⟩
  | control f | send f => exact ⟨f.receives, by rw [f.hist], f.driver⟩
  | receive => exact absurd rfl (hr _ _)
  | callAdmit => exact ⟨rfl, rfl, rfl⟩
  | callReceive | dropDriver | dropFields => cases hl

/-! ## The invariant -/

def ClientLoc.waits : ClientLoc → Nat
  | .awaiting _ _ _ => 1
  | _ => 0

/-- A waiter waits for the retained future, and its outer future takes no other result. -/
def ClientLoc.Ok (s : Connection) : ClientLoc → Prop
  | .awaiting k outer _ =>
    s.pendingReceive = some k ∧ ∀ r, outer = .done r → s.futures[k]? = some (.done r)
  | _ => True

/-- The unsettled native receive is in the slot. -/
structure Recorded (config : ConnectionConfig) (s : Connection) : Prop where
  native : Reachable config s.native
  alive : s.native.driver = .alive
  lengths : s.native.receives.length = s.futures.length
  fair : ∀ l ∈ s.native.receives, l.Fair
  /-- The flag says whether a call waits, and one call at most does. -/
  waiting : Pool.weigh ClientLoc.waits s.calls = s.receiveWaiterActive.toNat
  calls : ∀ l ∈ s.calls, l.Ok s
  pending : ∀ k : Nat, s.futures[k]? = some .pending → s.pendingReceive = some k
  known : ∀ k, s.pendingReceive = some k → k < s.futures.length
  uncancelled : ∀ k : Nat, s.futures[k]? ≠ some .cancelled
  done : ∀ (k : Nat) r, s.futures[k]? = some (.done r) → s.native.receives[k]? = some (.returned r)

theorem recorded_connect (config : ConnectionConfig) : Recorded config (connect config) where
  native := .start
  alive := rfl
  lengths := rfl
  fair := List.forall_mem_nil _
  waiting := rfl
  calls := List.forall_mem_nil _
  pending := by rintro _ ⟨⟩
  known := by rintro _ ⟨⟩
  uncancelled := by rintro _ ⟨⟩
  done := by rintro _ _ ⟨⟩

variable {s s' : Connection} {l : ClientLabel}

/-- Without a waiter, nothing is known of the calls. -/
theorem ok_of_idle {calls : List ClientLoc} (h : Pool.weigh ClientLoc.waits calls = 0) (s : Connection) :
    ∀ l ∈ calls, l.Ok s := by
  intro l hl
  cases l with
  | awaiting => cases Pool.eq_zero_of_weigh h hl
  | _ => trivial

theorem ClientLoc.waits_ofResult (r : Except DriverError InboundMessage) :
    (ClientLoc.ofResult r).waits = 0 := by
  cases r <;> rfl

/-! ## The steps of the driver -/

/-- A native receive that can move is unfinished. -/
theorem Recorded.moving (h : Recorded config s) {k : Nat} {loc : ReceiveLoc} {a : CallAct} {t : St}
    (hloc : s.native.receives[k]? = some loc) (hst : receiveStep s.native k loc a = some t) :
    s.futures[k]? = some .pending := by
  have hk : k < s.futures.length := h.lengths ▸ (List.getElem?_eq_some_iff.mp hloc).1
  cases hf : s.futures[k]? with
  | none => rw [List.getElem?_eq_none_iff] at hf; omega
  | some f =>
    cases f with
    | pending => rfl
    | cancelled => exact absurd hf (h.uncancelled k)
    | done r =>
      obtain rfl : loc = .returned r := by simpa [hloc] using h.done k r hf
      rw [receiveStep_over rfl] at hst; cases hst

/-- The slot of the driver is free for a new native receive: the earlier ones have returned. -/
theorem Recorded.free (h : Recorded config s) {k : Nat} (hk : s.native.receives[k]? = some .start)
    (hf : s.futures[k]? = some .pending) : s.native.inbound.receiveActive = false := by
  cases hact : s.native.inbound.receiveActive with
  | false => rfl
  | true =>
    obtain ⟨x, hx, ha⟩ := (delivery_reachable h.native).slot.busy_iff.mp hact
    obtain ⟨j, hj⟩ := List.mem_iff_getElem?.mp hx
    have hjk : j ≠ k := by
      rintro rfl
      rw [hk] at hj; cases hj; cases ha
    have hlt : j < s.futures.length := h.lengths ▸ (List.getElem?_eq_some_iff.mp hj).1
    cases hfj : s.futures[j]? with
    | none => rw [List.getElem?_eq_none_iff] at hfj; omega
    | some f =>
      cases f with
      | pending =>
        have := (h.pending j hfj).symm.trans (h.pending k hf)
        exact absurd (Option.some.inj this) hjk
      | cancelled => exact absurd hfj (h.uncancelled j)
      | done r =>
        obtain rfl : x = .returned r := by simpa [hj] using h.done j r hfj
        cases ha

/-- A step of native receive `k`, which is the unfinished one. -/
theorem Recorded.receive (h : Recorded config s) {k : Nat} {a : CallAct} {t : St}
    (hst : step config s.native (.receive k a) = some t) : s.futures[k]? = some .pending ∧
      ∃ loc loc', s.native.receives[k]? = some loc ∧ loc.message = [] ∧
        t.receives = s.native.receives.set k loc' ∧ loc'.Fair ∧
        t.hist.returned = s.native.hist.returned ++ loc'.message := by
  obtain ⟨loc, hloc, hst⟩ := Option.bind_eq_some_iff.mp hst
  have hpend := h.moving hloc hst
  have hterm : loc = .terminal → (terminalError s.native.cells.state.value).Genuine := by
    rintro rfl
    refine terminalError_genuine (genuine_reachable h.native).state ?_
    exact (results_reachable h.native).receives _ (List.mem_of_getElem? hloc)
  obtain ⟨loc', hset, hfair, hret⟩ := receiveStep_fair (fun hs => h.free (hs ▸ hloc) hpend)
    (h.fair _ (List.mem_of_getElem? hloc)) hterm hst
  refine ⟨hpend, loc, loc', hloc, ?_, hset, hfair, hret⟩
  cases loc with
  | returned r => rw [receiveStep_over rfl] at hst; cases hst
  | _ => rfl

theorem recorded_native {l : Label} {t : St} (h : Recorded config s) (hl : s.allows l = true)
    (hst : step config s.native l = some t) : Recorded config { s with native := t } := by
  have hreach := h.native.next hst
  by_cases hr : ∃ k a, l = .receive k a
  · obtain ⟨k, a, rfl⟩ := hr
    obtain ⟨hpend, loc, loc', hloc, -, hset, hfair, -⟩ := h.receive hst
    obtain ⟨_, -, hst⟩ := Option.bind_eq_some_iff.mp hst
    refine { h with
      native := hreach
      alive := (receiveStep_frame hst).driver.trans h.alive
      lengths := by rw [hset, List.length_set]; exact h.lengths
      fair := hset ▸ Pool.forall_set h.fair hfair
      calls := h.calls
      done := fun j r hj => ?_ }
    have hjk : k ≠ j := by
      rintro rfl
      rw [hpend] at hj; cases hj
    change t.receives[j]? = _
    rw [hset, List.getElem?_set_ne hjk]
    exact h.done j r hj
  · obtain ⟨hrec, -, hdr⟩ := step_receives hl (fun k a hx => hr ⟨k, a, hx⟩) hst
    exact { h with
      native := hreach
      alive := hdr.trans h.alive
      lengths := hrec ▸ h.lengths
      fair := hrec ▸ h.fair
      calls := h.calls
      done := hrec ▸ h.done }

/-! ## The steps of the loop -/

/-- A call moves, and nothing else does. -/
theorem Recorded.callAt (h : Recorded config s) {i : Nat} {loc loc' : ClientLoc}
    (hloc : s.calls[i]? = some loc) (hw : loc'.waits = loc.waits) (hok : loc'.Ok s) :
    Recorded config (s.callAt i loc') := by
  have hset := Pool.weigh_set (f := ClientLoc.waits) hloc loc'
  refine { h with
    waiting := ?_
    calls := Pool.forall_set h.calls hok }
  have hwait := h.waiting
  change Pool.weigh ClientLoc.waits (s.calls.set i loc') = s.receiveWaiterActive.toNat
  omega

/-- The call that ends was the waiter, if there was one. -/
theorem Recorded.unclaim (h : Recorded config s) {i : Nat} {loc loc' : ClientLoc}
    (hloc : s.calls[i]? = some loc) (hidle : s.receiveWaiterActive = true → loc.waits = 1)
    (hw : loc'.waits = 0) : Pool.weigh ClientLoc.waits (s.calls.set i loc') = 0 := by
  have hset := Pool.weigh_set (f := ClientLoc.waits) hloc loc'
  have hwait := h.waiting
  cases ha : s.receiveWaiterActive with
  | false => rw [ha, Bool.toNat_false] at hwait; omega
  | true =>
    have := hidle ha
    rw [ha, Bool.toNat_true] at hwait; omega

/-- A call ends on a settled native receive, and clears the slot. -/
theorem Recorded.finish (h : Recorded config s) {i k : Nat} {loc loc' : ClientLoc}
    {r : Except DriverError InboundMessage} {log : List (Except DriverError InboundMessage)}
    (hloc : s.calls[i]? = some loc) (hidle : s.receiveWaiterActive = true → loc.waits = 1)
    (hw : loc'.waits = 0) (hp : s.pendingReceive = some k) (hf : s.futures[k]? = some (.done r)) :
    Recorded config { s.callAt i loc' with
      pendingReceive := none
      receiveWaiterActive := false
      delivered := log } := by
  have hzero := h.unclaim hloc hidle hw
  refine { h with
    waiting := hzero
    calls := ok_of_idle hzero _
    pending := fun j hj => ?_
    known := by rintro _ ⟨⟩ }
  -- the one unsettled future would be the one in the slot
  change s.futures[j]? = some .pending at hj
  obtain rfl := Option.some.inj (hp.symm.trans (h.pending j hj))
  rw [hf] at hj; cases hj

/-- A waiter that is cancelled leaves the native receive where it is. -/
theorem Recorded.cancelled (h : Recorded config s) {i k : Nat} {outer : Future} {c : Bool}
    (hloc : s.calls[i]? = some (.awaiting k outer c)) :
    (receiveEnds s i k .cancelled).pendingReceive = s.pendingReceive ∧
      Recorded config (receiveEnds s i k .cancelled) := by
  have hzero : Pool.weigh ClientLoc.waits (s.calls.set i .cancelled) = 0 :=
    h.unclaim hloc (fun _ => rfl) rfl
  have hkeep : (receiveEnds s i k .cancelled).pendingReceive = s.pendingReceive := by
    simp only [receiveEnds]
    split
    · exact absurd ‹_› (h.uncancelled k)
    · rfl
  exact ⟨hkeep, { h with
    waiting := hzero
    calls := ok_of_idle hzero _
    pending := fun j hj => hkeep.trans (h.pending j hj)
    known := fun j hj => h.known j (hkeep.symm.trans hj) }⟩

/-- The result of the retained receive reaches its future. -/
theorem Recorded.settle (h : Recorded config s) {k : Nat} {r : Except DriverError InboundMessage}
    (hf : s.futures[k]? = some .pending) (hr : s.native.receives[k]? = some (.returned r)) :
    Recorded config { s with
      futures := s.futures.set k (.done r)
      settled := s.settled ++ [r] } := by
  have hk := (List.getElem?_eq_some_iff.mp hf).1
  have hp := h.pending k hf
  have hself : (s.futures.set k (.done r))[k]? = some (.done r) := List.getElem?_set_self hk
  have hother : ∀ {j : Nat}, k ≠ j → (s.futures.set k (.done r))[j]? = s.futures[j]? :=
    fun hne => List.getElem?_set_ne hne
  refine { h with
    lengths := by rw [List.length_set]; exact h.lengths
    calls := Pool.forall_mono h.calls fun x hx => ?_
    pending := fun j hj => ?_
    known := fun j hj => by rw [List.length_set]; exact h.known j hj
    uncancelled := fun j hj => ?_
    done := fun j r' hj => ?_ }
  · cases x with
    | awaiting k' outer c =>
      obtain ⟨hp', hd⟩ := hx
      refine ⟨hp', fun r' hr' => ?_⟩
      -- nobody has taken a result from a pending future
      have := hd r' hr'
      obtain rfl := Option.some.inj (hp.symm.trans hp')
      rw [hf] at this; cases this
    | _ => trivial
  · by_cases hkj : k = j
    · subst hkj; exact hp
    · exact h.pending j (hother hkj ▸ hj)
  · by_cases hkj : k = j
    · subst hkj; rw [hself] at hj; cases hj
    · exact h.uncancelled j (hother hkj ▸ hj)
  · by_cases hkj : k = j
    · subst hkj
      rw [hself] at hj
      cases hj; exact hr
    · exact h.done j r' (hother hkj ▸ hj)

/-- The one call that starts to wait. -/
theorem weigh_claim {calls : List ClientLoc} {i k : Nat} {loc : ClientLoc}
    (hzero : Pool.weigh ClientLoc.waits calls = 0) (hloc : calls[i]? = some loc) :
    Pool.weigh ClientLoc.waits (calls.set i (.awaiting k .pending false)) = 1 := by
  have hset := Pool.weigh_set (f := ClientLoc.waits) hloc (.awaiting k .pending false)
  rw [Pool.eq_zero_of_weigh hzero (List.mem_of_getElem? hloc), hzero] at hset
  exact hset

/-- A call with nothing retained starts the next native receive. -/
theorem Recorded.begin (h : Recorded config s) {i : Nat} {loc : ClientLoc} {t : St}
    (hloc : s.calls[i]? = some loc) (hidle : s.receiveWaiterActive = false)
    (hp : s.pendingReceive = none) (hst : step config s.native .callReceive = some t) :
    Recorded config { s.callAt i (.awaiting s.futures.length .pending false) with
      native := t
      futures := s.futures ++ [.pending]
      pendingReceive := some s.futures.length
      receiveWaiterActive := true } := by
  have hzero := hidle ▸ h.waiting
  have hreach := h.native.next hst
  obtain ⟨hal, hst⟩ := Option.ite_none_right_eq_some.mp hst
  cases hst
  have hold : ∀ {j : Nat} {f : Future}, (s.futures ++ [Future.pending])[j]? = some f →
      s.futures[j]? = some f ∨ j = s.futures.length ∧ f = .pending := by
    intro j f hj
    rcases Nat.lt_or_ge j s.futures.length with hlt | hge
    · exact .inl (List.getElem?_append_left hlt ▸ hj)
    · rw [List.getElem?_append_right hge] at hj
      have hj0 := (List.getElem?_eq_some_iff.mp hj).1
      obtain rfl : j = s.futures.length := by simp at hj0; omega
      exact .inr ⟨rfl, List.mem_singleton.mp (List.mem_of_getElem? hj)⟩
  refine { h with
    native := hreach
    alive := hal
    lengths := by simp [h.lengths]
    fair := Pool.forall_snoc h.fair trivial
    waiting := weigh_claim hzero hloc
    calls := Pool.forall_set (ok_of_idle hzero _) ⟨rfl, by rintro _ ⟨⟩⟩
    pending := fun j hj => ?_
    known := fun j hj => by cases hj; simp
    uncancelled := fun j hj => ?_
    done := fun j r hj => ?_ }
  · rcases hold hj with hj | ⟨rfl, -⟩
    · rw [h.pending j hj] at hp; cases hp
    · rfl
  · rcases hold hj with hj | ⟨-, hx⟩
    · exact h.uncancelled j hj
    · cases hx
  · rcases hold hj with hj | ⟨-, hx⟩
    · have hd := h.done j r hj
      exact (List.getElem?_append_left (List.getElem?_eq_some_iff.mp hd).1).trans hd
    · cases hx

/-- A call finds the retained receive unsettled and waits for it. -/
theorem Recorded.rejoin (h : Recorded config s) {i k : Nat} {loc : ClientLoc}
    (hloc : s.calls[i]? = some loc) (hidle : s.receiveWaiterActive = false)
    (hp : s.pendingReceive = some k) :
    Recorded config { s.callAt i (.awaiting k .pending false) with receiveWaiterActive := true } := by
  have hzero := hidle ▸ h.waiting
  exact { h with
    waiting := weigh_claim hzero hloc
    calls := Pool.forall_set (ok_of_idle hzero _) ⟨hp, by rintro _ ⟨⟩⟩ }

theorem recorded_enter {i : Nat} (h : Recorded config s) (hloc : s.calls[i]? = some .start)
    (hst : enter config s i = some s') : Recorded config s' := by
  unfold enter at hst
  cases hact : s.receiveWaiterActive with
  | true =>
    simp only [hact, if_true, Option.some.injEq] at hst
    subst hst
    exact h.callAt hloc rfl trivial
  | false =>
    simp only [hact, Bool.false_eq_true, if_false] at hst
    split at hst
    · rename_i hp
      obtain ⟨t, ht, rfl⟩ := Option.map_eq_some_iff.mp hst
      exact h.begin hloc hact hp ht
    · rename_i k hp
      split at hst
      · -- the retained receive is awaited again
        cases hst
        exact h.rejoin hloc hact hp
      · rename_i r hf
        cases hst
        exact h.finish hloc (by rw [hact]; rintro ⟨⟩) (ClientLoc.waits_ofResult r) hp hf
      · exact absurd ‹_› (h.uncancelled k)
      · cases hst

/-- Nothing is thrown into a coroutine whose native receive is unfinished. -/
def KeepsReceive (s : Connection) (l : ClientLabel) : Prop :=
  ∀ (i k : Nat) outer c, l = .throw i → s.calls[i]? = some (.awaiting k outer c) →
    s.futures[k]? ≠ some .pending

/-- Somebody cancels the future of a native receive. -/
def ClientLabel.cancelsNative : ClientLabel → Bool
  | .cancelNative _ => true
  | _ => false

/-- **Every step but a throw at an unfinished receive keeps the slot.** -/
theorem recorded_step (h : Recorded config s) (hl : l.cancelsNative = false) (hok : KeepsReceive s l)
    (hst : clientStep config s l = some s') : Recorded config s' := by
  cases l with
  | native l =>
    obtain ⟨hal, hst⟩ := Option.ite_none_right_eq_some.mp hst
    obtain ⟨t, ht, rfl⟩ := Option.map_eq_some_iff.mp hst
    exact recorded_native h hal ht
  | call =>
    cases hst
    refine { h with waiting := ?_, calls := Pool.forall_snoc h.calls trivial }
    rw [Pool.weigh_append]; exact h.waiting
  | enter i =>
    simp only [clientStep] at hst
    split at hst
    · exact recorded_enter h ‹_› hst
    · cases hst
  | settle k =>
    simp only [clientStep] at hst
    split at hst
    · cases hst; exact h.settle ‹_› ‹_›
    · cases hst
  | propagate i =>
    simp only [clientStep] at hst
    split at hst
    · rename_i k c hloc
      have hawait := h.calls _ (List.mem_of_getElem? hloc)
      split at hst
      · cases hst
      · cases hst
      · rename_i outer _ hnp hf
        cases hst
        refine h.callAt hloc rfl ⟨hawait.1, fun r hr => ?_⟩
        rw [hf, hr]
    · cases hst
  | cancel i =>
    simp only [clientStep] at hst
    split at hst
    · rename_i hloc
      cases hst; exact h.callAt hloc rfl trivial
    · rename_i hloc
      have hawait := h.calls _ (List.mem_of_getElem? hloc)
      cases hst; exact h.callAt hloc rfl ⟨hawait.1, by rintro _ ⟨⟩⟩
    · rename_i hloc
      have hawait := h.calls _ (List.mem_of_getElem? hloc)
      cases hst; exact h.callAt hloc rfl hawait
    · cases hst
  | resume i =>
    simp only [clientStep] at hst
    split at hst
    · cases hst
    · cases hst; exact (h.cancelled ‹_›).2
    · cases hst; exact (h.cancelled ‹_›).2
    · rename_i hloc
      obtain ⟨hp, hd⟩ := h.calls _ (List.mem_of_getElem? hloc)
      cases hst
      exact h.finish hloc (fun _ => rfl) (ClientLoc.waits_ofResult _) hp (hd _ rfl)
    · cases hst
  | throw i =>
    simp only [clientStep] at hst
    split at hst
    · rename_i hloc
      cases hst; exact h.callAt hloc rfl trivial
    · rename_i k outer c hloc
      obtain ⟨hp, -⟩ := h.calls _ (List.mem_of_getElem? hloc)
      have hpend := hok i k outer c rfl hloc
      cases hst
      cases hf : s.futures[k]? with
      | none =>
        have hk := h.known k hp
        rw [List.getElem?_eq_none_iff] at hf
        omega
      | some f =>
        cases f with
        | pending => exact absurd hf hpend
        | cancelled => exact absurd hf (h.uncancelled k)
        | done r => exact h.finish hloc (fun _ => rfl) rfl hp hf
    · cases hst
  | cancelNative k => cases hl

/-! ## What the slot is good for -/

/-- No native receive ends in a concurrency error. -/
theorem Recorded.not_busy (h : Recorded config s) {k : Nat} {r : Except DriverError InboundMessage}
    {m : String} (hf : s.futures[k]? = some (.done r)) :
    ClientLoc.ofResult r ≠ .raised (.concurrency m) := by
  intro he
  have hfair := h.fair _ (List.mem_of_getElem? (h.done k r hf))
  cases r with
  | ok => cases he
  | error e => cases he; exact hfair

/-- While the flag is set, another call waits. -/
theorem Recorded.waiter (h : Recorded config s) {i : Nat} (hact : s.receiveWaiterActive = true)
    (hi : s.calls[i]? = some .start) :
    ∃ j k outer c, j ≠ i ∧ s.calls[j]? = some (.awaiting k outer c) := by
  by_contra hno
  have hzero : Pool.weigh ClientLoc.waits s.calls = 0 := Pool.weigh_eq_zero fun x hx => by
    obtain ⟨j, hj⟩ := List.mem_iff_getElem?.mp hx
    cases x with
    | awaiting k outer c =>
      refine absurd ⟨j, k, outer, c, ?_, hj⟩ hno
      rintro rfl
      rw [hi] at hj; cases hj
    | _ => rfl
  rw [h.waiting, hact] at hzero; cases hzero

theorem Recorded.busy (h : Recorded config s) {i : Nat} {m : String}
    (hst : clientStep config s l = some s') (hx : s'.calls[i]? = some (.raised (.concurrency m))) :
    s.calls[i]? = some (.raised (.concurrency m)) ∨
      l = .enter i ∧ (∃ j k outer c, j ≠ i ∧ s.calls[j]? = some (.awaiting k outer c)) ∧
        s' = s.callAt i (.raised receiveBusy) := by
  -- a call that moves elsewhere is not the one
  have hmove : ∀ {j : Nat} (loc : ClientLoc), loc ≠ .raised (.concurrency m) →
      (s.calls.set j loc)[i]? = some (.raised (.concurrency m)) →
      s.calls[i]? = some (.raised (.concurrency m)) := fun _ hne hset =>
    (Pool.get_set hset).resolve_right fun hq => hne hq.2
  cases l with
  | native l =>
    obtain ⟨-, hst⟩ := Option.ite_none_right_eq_some.mp hst
    obtain ⟨t, -, rfl⟩ := Option.map_eq_some_iff.mp hst
    exact .inl hx
  | call =>
    cases hst
    rcases Nat.lt_or_ge i s.calls.length with hlt | hge
    · exact .inl (List.getElem?_append_left hlt ▸ hx)
    · rw [List.getElem?_append_right hge] at hx
      cases List.mem_singleton.mp (List.mem_of_getElem? hx)
  | enter j =>
    simp only [clientStep] at hst
    split at hst
    · rename_i hj
      unfold enter at hst
      cases hact : s.receiveWaiterActive with
      | true =>
        simp only [hact, if_true, Option.some.injEq] at hst
        subst hst
        rcases Pool.get_set hx with hx | ⟨rfl, -⟩
        · exact .inl hx
        · exact .inr ⟨rfl, h.waiter hact hj, rfl⟩
      | false =>
        simp only [hact, Bool.false_eq_true, if_false] at hst
        split at hst
        · obtain ⟨t, -, rfl⟩ := Option.map_eq_some_iff.mp hst
          exact .inl (hmove (.awaiting _ _ _) (by rintro ⟨⟩) hx)
        · split at hst
          · cases hst; exact .inl (hmove (.awaiting _ _ _) (by rintro ⟨⟩) hx)
          · rename_i hf
            cases hst; exact .inl (hmove _ (h.not_busy hf) hx)
          · cases hst; exact .inl (hmove .cancelled (by rintro ⟨⟩) hx)
          · cases hst
    · cases hst
  | settle k =>
    simp only [clientStep] at hst
    split at hst <;> cases hst
    exact .inl hx
  | propagate j =>
    simp only [clientStep] at hst
    split at hst
    · split at hst <;> cases hst
      exact .inl (hmove (.awaiting _ _ _) (by rintro ⟨⟩) hx)
    · cases hst
  | cancel j =>
    simp only [clientStep] at hst
    split at hst
    · cases hst; exact .inl (hmove .cancelled (by rintro ⟨⟩) hx)
    · cases hst; exact .inl (hmove (.awaiting _ _ _) (by rintro ⟨⟩) hx)
    · cases hst; exact .inl (hmove (.awaiting _ _ _) (by rintro ⟨⟩) hx)
    · cases hst
  | resume j =>
    simp only [clientStep] at hst
    split at hst
    · cases hst
    · cases hst; exact .inl (hmove .cancelled (by rintro ⟨⟩) hx)
    · cases hst; exact .inl (hmove .cancelled (by rintro ⟨⟩) hx)
    · rename_i hloc
      have hd := (h.calls _ (List.mem_of_getElem? hloc)).2 _ rfl
      cases hst; exact .inl (hmove _ (h.not_busy hd) hx)
    · cases hst
  | throw j =>
    simp only [clientStep] at hst
    split at hst
    · cases hst; exact .inl (hmove .thrown (by rintro ⟨⟩) hx)
    · cases hst; exact .inl (hmove .thrown (by rintro ⟨⟩) hx)
    · cases hst
  | cancelNative k =>
    simp only [clientStep] at hst
    split at hst <;> cases hst
    exact .inl hx

/-! ## The result -/

structure NoOrphan (config : ConnectionConfig) (s : Connection) : Prop where
  /-- An unfinished native receive is recorded in `_pending_receive`. -/
  recorded : ∀ k : Nat, s.futures[k]? = some .pending → s.pendingReceive = some k
  /-- The next `receive()` resumes it. -/
  resumed : ∀ i k : Nat, s.calls[i]? = some .start → s.receiveWaiterActive = false →
    s.futures[k]? = some .pending → ∃ s', clientStep config s (.enter i) = some s' ∧
      s'.calls[i]? = some (.awaiting k .pending false)
  /-- `ConcurrencyError` is raised only beside another waiter. -/
  busy : ∀ l s' i m, clientStep config s l = some s' →
    s'.calls[i]? = some (.raised (.concurrency m)) → s.calls[i]? = some (.raised (.concurrency m)) ∨
      l = .enter i ∧ ∃ j k outer c, j ≠ i ∧ s.calls[j]? = some (.awaiting k outer c)
  /-- A message is only taken by the native receive that a call awaits or the next call will. -/
  consumed : ∀ k a t, step config s.native (.receive k a) = some t → s.pendingReceive = some k

theorem Recorded.noOrphan (h : Recorded config s) : NoOrphan config s := by
  constructor
  · exact h.pending
  · intro i k hi hact hf
    have hp := h.pending k hf
    refine ⟨{ s.callAt i (.awaiting k .pending false) with receiveWaiterActive := true }, ?_, ?_⟩
    · simp only [clientStep, hi, enter, hact, hp, hf, Bool.false_eq_true, if_false]
    · exact List.getElem?_set_self (List.getElem?_eq_some_iff.mp hi).1
  · intro l s' i m hst hx
    rcases h.busy hst hx with hx | ⟨hl, hwait, -⟩
    · exact .inl hx
    · exact .inr ⟨hl, hwait⟩
  · intro k a t hst
    exact h.pending k (h.receive hst).1

/-- A throw at an unfinished receive clears the slot. -/
theorem thrown_orphans {i k : Nat} {outer : Future} {c : Bool} (hloc : s.calls[i]? = some (.awaiting k outer c))
    (hf : s.futures[k]? = some .pending) (hst : clientStep config s (.throw i) = some s') :
    ¬NoOrphan config s' := by
  intro h
  simp only [clientStep, hloc, Option.some.injEq] at hst
  subst hst
  cases h.recorded k hf

/-- **No native receive is ever orphaned exactly if nothing is thrown into a coroutine whose native
receive is unfinished.** -/
theorem no_orphan_iff (config : ConnectionConfig) (ls : List ClientLabel) (s : Connection)
    (h : Lts.run (clientStep config) (connect config) ls = some s)
    (hls : ∀ l ∈ ls, l.cancelsNative = false) :
    (∀ as t, as <+: ls → Lts.run (clientStep config) (connect config) as = some t →
        NoOrphan config t) ↔
      Lts.Path (clientStep config) KeepsReceive (connect config) ls s := by
  constructor
  · intro hall
    refine Lts.path_of_initial h fun as l t t' hp hr hst => ?_
    rintro i k outer c rfl hloc hf
    refine thrown_orphans hloc hf hst (hall _ t' hp ?_)
    rw [Lts.run_append, hr, Option.bind_some, Lts.run_cons, hst]
    rfl
  · intro hpath as t hp hr
    have hinit := (hpath.restrict hls).initial hp hr
    have hinv := hinit.invariant (P := Recorded config)
      (fun _ _ _ hs hok hst => recorded_step hs hok.2 hok.1 hst) (recorded_connect config)
    exact hinv.noOrphan

/-- A call waits for a message, and its coroutine is closed. -/
def closedCoroutineRun : List ClientLabel :=
  [.call, .enter 0, .native (.receive 0 .next), .native (.receive 0 .next), .throw 0]

/-- The next call starts a native receive of its own, which the driver refuses; then a message comes
in, and the orphan takes it. -/
def afterwardsRun : List ClientLabel :=
  closedCoroutineRun ++ [.call, .enter 1, .native (.receive 1 .next), .settle 1, .propagate 1, .resume 1,
    .native (.reader .next), .native (.reader .next), .native (.reader (.item (some (.ok (.binary [1]))))),
    .native (.reader .next), .native (.reader .next), .native (.reader .next), .native (.receive 0 .next),
    .native (.receive 0 .next), .native (.receive 0 .next)]

theorem receive_orphaned :
    ¬NoOrphan .tiny (Lts.after (clientStep .tiny) (connect .tiny) closedCoroutineRun) ∧
      (Lts.run (clientStep .tiny) (connect .tiny) afterwardsRun).isSome ∧
      (Lts.after (clientStep .tiny) (connect .tiny) afterwardsRun).calls =
        [.thrown, .raised receiveBusy] ∧
      (Lts.after (clientStep .tiny) (connect .tiny) afterwardsRun).native.hist.returned = [.binary [1]] ∧
      (Lts.after (clientStep .tiny) (connect .tiny) afterwardsRun).pendingReceive = none := by
  refine ⟨fun h => ?_, rfl, rfl, rfl, rfl⟩
  cases h.recorded 0 rfl

/-- The waiter is cancelled instead, and the next call waits for the same native receive. -/
def resumedRun : List ClientLabel :=
  [.call, .enter 0, .native (.receive 0 .next), .native (.receive 0 .next), .cancel 0, .resume 0, .call,
    .enter 1]

theorem no_orphan_iff_resumed :
    (∀ as t, as <+: resumedRun → Lts.run (clientStep .tiny) (connect .tiny) as = some t →
        NoOrphan .tiny t) ↔
      Lts.Path (clientStep .tiny) KeepsReceive (connect .tiny) resumedRun
        (Lts.after (clientStep .tiny) (connect .tiny) resumedRun) :=
  no_orphan_iff .tiny resumedRun _ (Lts.run_after rfl) (by decide)

end FogWS
