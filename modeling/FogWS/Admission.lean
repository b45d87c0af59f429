import FogWS.Driver
/-!
# `try_admit_outbound` as one function

`sendStep` takes `try_admit_outbound` apart into its atomic steps. Here it is one function of the state and
of the two outbound budgets, for a call nothing else comes between.

| here | there |
| --- | --- |
| `OutboundAdmission` | `OutboundAdmission` (driver.rs:56); the item permit is one slot of the channel |
| `tryAdmitOutbound` | `try_admit_outbound` (driver.rs:246), with what it leaves of the budgets |

`admit_alone` says that the steps of the driver do what the function says.
-/
namespace FogWS

variable {config : ConnectionConfig} {s : St} {v : DriverState} {o o' : Outbound} {i n : Nat}

/-- `OutboundAdmission` (driver.rs:56). -/
structure OutboundAdmission where
  bytePermit : Nat
  messageSize : Nat
  deriving DecidableEq, Repr

/-- `try_admit_outbound` (driver.rs:246). An early return drops the byte permit. -/
def tryAdmitOutbound (config : ConnectionConfig) (state : DriverState) (outbound : Outbound)
    (messageSize : Nat) : Except DriverError OutboundAdmission × Outbound :=
  match validateOutboundMessage config state messageSize with
  | .error error => (.error error, outbound)
  | .ok () =>
    if messageSize > u32Max then (.error unsupportedSize, outbound)
    else if messageSize ≤ outbound.budget then
      let held := { outbound with budget := outbound.budget - messageSize }
      match held.channel.tryReserve with
      | .ok channel => (.ok ⟨messageSize, messageSize⟩, { held with channel })
      | .error .full => (.error queueFull, { held with budget := held.budget + messageSize })
      | .error .closed =>
        (.error (terminalError state), { held with budget := held.budget + messageSize })
    else (.error bytesExhausted, outbound)

/-! ## What passes and what is taken -/

theorem validate_ok_iff :
    validateOutboundMessage config v n = .ok () ↔ v = .opened ∧ n ≤ config.maxMessageSize := by
  cases v with
  | opened =>
    by_cases hn : n > config.maxMessageSize
    · simp [validateOutboundMessage, ensureOpen, hn]
    · simp [validateOutboundMessage, ensureOpen, hn, Nat.le_of_not_gt hn]
  | _ => simp [validateOutboundMessage, ensureOpen]

/-- A state that is not open refuses every size with the same error. -/
theorem validate_not_opened (hv : v ≠ .opened) (m : Nat) :
    validateOutboundMessage config v n = validateOutboundMessage config v m := by
  cases v with
  | opened => exact absurd rfl hv
  | _ => rfl

/-- **A refused call has taken nothing.** -/
theorem admit_error {e : DriverError} (h : tryAdmitOutbound config v o n = (.error e, o')) : o' = o := by
  unfold tryAdmitOutbound at h
  split at h
  · cases h; rfl
  · split at h
    · cases h; rfl
    · split at h
      · rename_i hb
        have hback : o.budget - n + n = o.budget := by omega
        dsimp only at h
        split at h
        · cases h
        · cases h; simp only [hback]
        · cases h; simp only [hback]
      · cases h; rfl

/-- An admission holds the bytes of the message and one slot. -/
theorem admit_ok {a : OutboundAdmission} (h : tryAdmitOutbound config v o n = (.ok a, o')) :
    a = ⟨n, n⟩ ∧ n ≤ config.maxMessageSize ∧ o'.budget + n = o.budget ∧
      o'.channel.free + 1 = o.channel.free := by
  unfold tryAdmitOutbound at h
  split at h
  · cases h
  · rename_i hv
    split at h
    · cases h
    · split at h
      · rename_i hb
        dsimp only at h
        split at h
        · rename_i hc
          obtain ⟨-, hfree, rfl⟩ := Mpsc.tryReserve_ok hc
          cases h
          exact ⟨rfl, (validate_ok_iff.mp hv).2, by dsimp only; omega, by dsimp only; omega⟩
        · cases h
        · cases h
      · cases h

/-- With bytes and a slot to spare, an open connection admits. -/
theorem admit_of_room (hn : n ≤ config.maxMessageSize) (hu : n ≤ u32Max) (hb : n ≤ o.budget)
    (hcl : o.channel.closed = false) (hfree : 0 < o.channel.free) :
    ∃ o', tryAdmitOutbound config .opened o n = (.ok ⟨n, n⟩, o') := by
  have hv : validateOutboundMessage config .opened n = .ok () := validate_ok_iff.mpr ⟨rfl, hn⟩
  have hne : o.channel.free ≠ 0 := Nat.ne_of_gt hfree
  simp [tryAdmitOutbound, hv, Nat.not_lt.mpr hu, hb, Mpsc.tryReserve, hcl, hne]

/-! ## The steps of the driver -/

/-- Send `i` alone has moved, to `loc`, and has left `o` of the outbound buffers. -/
def St.sendWith (s : St) (i : Nat) (loc : SendLoc) (o : Outbound) : St :=
  { s.sendAt i loc with outbound := o }

/-- Steps of send `i`, one after the other. -/
def Comes (config : ConnectionConfig) (i : Nat) (s s' : St) : Prop :=
  ∃ k, Lts.run (step config) s (List.replicate k (.send i .next)) = some s'

/-- The send has come to what the function returned. -/
def Admits (config : ConnectionConfig) (s : St) (i : Nat) :
    Except DriverError OutboundAdmission × Outbound → Prop
  | (.ok admission, o) => Comes config i s (s.sendWith i (.admitted admission.messageSize) o)
  | (.error error, o) => ∃ why, Comes config i s (s.sendWith i (.refused why error) o)

theorem Comes.refl (s : St) : Comes config i s s := ⟨0, rfl⟩

theorem Comes.next {t : St} (hst : step config s (.send i .next) = some t) {s' : St}
    (h : Comes config i t s') : Comes config i s s' := by
  obtain ⟨k, hk⟩ := h
  exact ⟨k + 1, by rw [List.replicate_succ, Lts.run_cons, hst]; exact hk⟩

theorem Comes.trans {t u : St} (h : Comes config i s t) (h' : Comes config i t u) : Comes config i s u := by
  obtain ⟨k, hk⟩ := h
  obtain ⟨k', hk'⟩ := h'
  exact ⟨k + k', by rw [← List.replicate_append_replicate, Lts.run_append, hk]; exact hk'⟩

theorem Comes.single {t : St} (hst : step config s (.send i .next) = some t) : Comes config i s t :=
  .next hst (.refl t)

theorem sendWith_sendWith (s : St) (x y : SendLoc) :
    (s.sendWith i x o).sendWith i y o' = s.sendWith i y o' := by
  simp only [St.sendWith, St.sendAt, List.set_set]

/-- What the call comes to from a later location is what it comes to. -/
theorem Admits.of_comes {loc : SendLoc} {r : Except DriverError OutboundAdmission × Outbound}
    (h : Comes config i s (s.sendWith i loc o)) (ha : Admits config (s.sendWith i loc o) i r) :
    Admits config s i r := by
  obtain ⟨e | a, o'⟩ := r
  · obtain ⟨why, hw⟩ := ha
    rw [sendWith_sendWith] at hw
    exact ⟨why, h.trans hw⟩
  · dsimp only [Admits] at ha ⊢
    rw [sendWith_sendWith] at ha
    exact h.trans ha

section Steps

variable (hi : i < s.sends.length)
include hi

theorem sendWith_get (loc : SendLoc) (o : Outbound) : (s.sendWith i loc o).sends[i]? = some loc :=
  List.getElem?_set_self hi

/-- The step of a send that has moved before. -/
theorem sendWith_next {loc loc' : SendLoc} (hst : sendStep config (s.sendWith i loc o) i loc .next =
      some ((s.sendWith i loc o).sendWith i loc' o')) :
    step config (s.sendWith i loc o) (.send i .next) = some (s.sendWith i loc' o') := by
  simp only [step, sendWith_get hi, Option.bind_some, hst, sendWith_sendWith]

theorem acquire_next (hb : n ≤ o.budget) : step config (s.sendWith i (.acquire n) o) (.send i .next) =
    some (s.sendWith i (.reserve n) { o with budget := o.budget - n }) := by
  refine sendWith_next hi ?_
  simp only [sendStep]
  exact congrArg some (if_pos hb)

theorem exhausted_next (hb : ¬n ≤ o.budget) : step config (s.sendWith i (.acquire n) o) (.send i .next) =
    some (s.sendWith i (.refused .bytesExhausted bytesExhausted) o) := by
  refine sendWith_next hi ?_
  simp only [sendStep]
  exact congrArg some (if_neg hb)

theorem reserve_next {channel : Mpsc OutboundCommand} (hc : o.channel.tryReserve = .ok channel) :
    step config (s.sendWith i (.reserve n) o) (.send i .next) =
      some (s.sendWith i (.admitted n) { o with channel }) := by
  have hout : (s.sendWith i (.reserve n) o).outbound = o := rfl
  refine sendWith_next hi ?_
  simp only [sendStep, hout, hc]
  rfl

theorem giveBack_next {why : Refusal} {e : DriverError} :
    step config (s.sendWith i (.giveBack n why e) o) (.send i .next) =
      some (s.sendWith i (.refused why e) { o with budget := o.budget + n }) :=
  sendWith_next hi rfl

/-- The slot is reserved, or the bytes are given back. -/
theorem reserve_admits : Admits config (s.sendWith i (.reserve n) o) i
    (match o.channel.tryReserve with
    | .ok channel => (.ok ⟨n, n⟩, { o with channel })
    | .error .full => (.error queueFull, { o with budget := o.budget + n })
    | .error .closed => (.error (terminalError s.cells.state.value), { o with budget := o.budget + n })) := by
  have hout : (s.sendWith i (.reserve n) o).outbound = o := rfl
  cases hc : o.channel.tryReserve with
  | ok channel =>
    dsimp only [Admits]
    rw [sendWith_sendWith]
    exact .single (reserve_next hi hc)
  | error e =>
    cases e with
    | full =>
      refine ⟨.queueFull, ?_⟩
      rw [sendWith_sendWith]
      have hfull : step config (s.sendWith i (.reserve n) o) (.send i .next) =
          some (s.sendWith i (.giveBack n .queueFull queueFull) o) := by
        refine sendWith_next hi ?_
        simp only [sendStep, hout, hc]
        rfl
      exact .next hfull (.single (giveBack_next hi))
    | closed =>
      refine ⟨.channelClosed, ?_⟩
      rw [sendWith_sendWith]
      have hclosed : step config (s.sendWith i (.reserve n) o) (.send i .next) =
          some (s.sendWith i (.refuse n) o) := by
        refine sendWith_next hi ?_
        simp only [sendStep, hout, hc]
        rfl
      exact .next hclosed (.next (sendWith_next hi rfl) (.single (giveBack_next hi)))

end Steps

theorem start_next (hcall : s.sends[i]? = some (.start n))
    (hv : validateOutboundMessage config s.cells.state.value n = .ok ()) (hu : n ≤ u32Max) :
    step config s (.send i .next) = some (s.sendWith i (.acquire n) s.outbound) := by
  simp only [step, hcall, Option.bind_some, sendStep, hv, if_neg (Nat.not_lt.mpr hu)]
  rfl

/-- The three steps of a call that is granted. -/
theorem granted_run {channel : Mpsc OutboundCommand} (hcall : s.sends[i]? = some (.start n))
    (hv : validateOutboundMessage config s.cells.state.value n = .ok ()) (hu : n ≤ u32Max)
    (hb : n ≤ s.outbound.budget) (hc : s.outbound.channel.tryReserve = .ok channel) :
    Lts.run (step config) s [.send i .next, .send i .next, .send i .next] =
      some (s.sendWith i (.admitted n) { s.outbound with budget := s.outbound.budget - n, channel }) := by
  have hi := (List.getElem?_eq_some_iff.mp hcall).1
  have h₃ : step config (s.sendWith i (.reserve n) { s.outbound with budget := s.outbound.budget - n })
      (.send i .next) = _ := reserve_next hi hc
  rw [Lts.run_cons, start_next hcall hv hu, Option.bind_some, Lts.run_cons, acquire_next hi hb,
    Option.bind_some, Lts.run_cons, h₃]
  rfl

/-- **The steps of a call that runs alone** are `tryAdmitOutbound`. -/
theorem admit_alone (hcall : s.sends[i]? = some (.start n)) :
    Admits config s i (tryAdmitOutbound config s.cells.state.value s.outbound n) := by
  have hi := (List.getElem?_eq_some_iff.mp hcall).1
  unfold tryAdmitOutbound
  cases hv : validateOutboundMessage config s.cells.state.value n with
  | error e =>
    refine ⟨.validation s.cells.state.value, .single ?_⟩
    simp only [step, hcall, Option.bind_some, sendStep, hv]
    rfl
  | ok =>
    dsimp only
    by_cases hu : n > u32Max
    · rw [if_pos hu]
      refine ⟨.unsupported, .single ?_⟩
      simp only [step, hcall, Option.bind_some, sendStep, hv, hu, if_true]
      rfl
    rw [if_neg hu]
    have hacquire := start_next hcall hv (Nat.le_of_not_gt hu)
    by_cases hb : n ≤ s.outbound.budget
    · rw [if_pos hb]
      exact .of_comes (.next hacquire (.single (acquire_next hi hb))) (reserve_admits hi)
    · rw [if_neg hb]
      exact ⟨.bytesExhausted, .next hacquire (.single (exhausted_next hi hb))⟩

end FogWS
