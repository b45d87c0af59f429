import FogWS.Retained
/-!
# No message is lost between the driver and the application

At most one native receive is unsettled, and it is the retained one; a result that has settled and
not been delivered is retained too. So what the calls of `Connection.receive()` deliver is what the
native receives produce, in order, whatever waiters are cancelled on the way.

The slot and its futures are `Recorded`; what is added here is the account of the results.
-/
namespace FogWS

variable {config : ConnectionConfig}

/-! ## The invariant -/

/-- The message a call has returned. -/
def ClientLoc.message : ClientLoc → List InboundMessage
  | .returned message => [message]
  | _ => []

/-- The result that has settled and not been delivered. -/
def Connection.retained (s : Connection) : List (Except DriverError InboundMessage) :=
  match s.pendingReceive with
  | some k => match s.futures[k]? with
    | some (.done r) => [r]
    | _ => []
  | none => []

/-- The message that the driver has returned and that has not settled. -/
def Connection.flying (s : Connection) : List InboundMessage :=
  match s.pendingReceive with
  | some k => match s.futures[k]?, s.native.receives[k]? with
    | some .pending, some loc => loc.message
    | _, _ => []
  | none => []

/-- The messages among the results. -/
def messages (rs : List (Except DriverError InboundMessage)) : List InboundMessage :=
  rs.filterMap Except.toOption

structure Lossless (config : ConnectionConfig) (s : Connection) : Prop where
  native : Reachable config s.native
  alive : s.native.driver = .alive
  lengths : s.native.receives.length = s.futures.length
  fair : ∀ l ∈ s.native.receives, l.Fair
  /-- The flag says whether a call waits, and one call at most does. -/
  waiting : Pool.weigh ClientLoc.waits s.calls = s.receiveWaiterActive.toNat
  calls : ∀ l ∈ s.calls, l.Ok s
  /-- The log of deliveries is what the calls have returned. -/
  log : (s.calls.flatMap ClientLoc.message).Perm (messages s.delivered)
  /-- The one unsettled native receive is retained. -/
  pending : ∀ k : Nat, s.futures[k]? = some .pending → s.pendingReceive = some k
  known : ∀ k, s.pendingReceive = some k → k < s.futures.length
  uncancelled : ∀ k : Nat, s.futures[k]? ≠ some .cancelled
  done : ∀ (k : Nat) r, s.futures[k]? = some (.done r) → s.native.receives[k]? = some (.returned r)
  exact : s.settled = s.delivered ++ s.retained
  returned : s.native.hist.returned = messages s.settled ++ s.flying

variable {s s' : Connection} {l : ClientLabel}

theorem Lossless.recorded (h : Lossless config s) : Recorded config s :=
  ⟨h.native, h.alive, h.lengths, h.fair, h.waiting, h.calls, h.pending, h.known, h.uncancelled, h.done⟩

/-- The account of the results, on top of what is known of the slot. -/
theorem Recorded.lossless (h : Recorded config s)
    (hlog : (s.calls.flatMap ClientLoc.message).Perm (messages s.delivered))
    (hexact : s.settled = s.delivered ++ s.retained)
    (hret : s.native.hist.returned = messages s.settled ++ s.flying) : Lossless config s :=
  ⟨h.native, h.alive, h.lengths, h.fair, h.waiting, h.calls, hlog, h.pending, h.known, h.uncancelled,
    h.done, hexact, hret⟩

theorem lossless_connect (config : ConnectionConfig) : Lossless config (connect config) :=
  (recorded_connect config).lossless .nil rfl rfl

/-! ## The steps of the driver -/

theorem lossless_native {l : Label} {t : St} (h : Lossless config s) (hl : s.allows l = true)
    (hst : step config s.native l = some t) : Lossless config { s with native := t } := by
  refine (recorded_native h.recorded hl hst).lossless h.log h.exact ?_
  by_cases hr : ∃ k a, l = .receive k a
  · obtain ⟨k, a, rfl⟩ := hr
    obtain ⟨hpend, loc, loc', hloc, hm, hset, -, hret⟩ := h.recorded.receive hst
    have hk := (List.getElem?_eq_some_iff.mp hloc).1
    have hself : t.receives[k]? = some loc' := by rw [hset, List.getElem?_set_self hk]
    -- the receive that moves had returned nothing
    have hnone : s.flying = [] := by
      simp only [Connection.flying, h.pending k hpend, hpend, hloc, hm]
    have hfly : Connection.flying { s with native := t } = loc'.message := by
      simp only [Connection.flying, h.pending k hpend, hpend, hself]
    rw [hfly, hret, h.returned, hnone, List.append_nil]
  · obtain ⟨hrec, hret, -⟩ := step_receives hl (fun k a hx => hr ⟨k, a, hx⟩) hst
    have hfly : Connection.flying { s with native := t } = s.flying := by
      simp only [Connection.flying, hrec]
    rw [hfly]
    exact hret.trans h.returned

/-! ## The steps of the loop -/

/-- A call moves, and nothing else does. -/
theorem Lossless.callAt (h : Lossless config s) {i : Nat} {loc loc' : ClientLoc}
    (hloc : s.calls[i]? = some loc) (hw : loc'.waits = loc.waits) (hm : loc'.message = loc.message)
    (hok : loc'.Ok s) : Lossless config (s.callAt i loc') := by
  refine (h.recorded.callAt hloc hw hok).lossless ?_ h.exact h.returned
  rw [Connection.callAt, Pool.flatMap_set hloc hm]
  exact h.log

/-- A result that is retained is delivered, to a new call or to the waiter. -/
theorem Lossless.deliver (h : Lossless config s) {i k : Nat} {loc : ClientLoc}
    {r : Except DriverError InboundMessage} (hloc : s.calls[i]? = some loc) (hm : loc.message = [])
    (hidle : s.receiveWaiterActive = true → loc.waits = 1) (hp : s.pendingReceive = some k)
    (hf : s.futures[k]? = some (.done r)) : Lossless config (receiveEnds s i k (.result r)) := by
  have hrec : Recorded config (receiveEnds s i k (.result r)) :=
    h.recorded.finish hloc hidle (ClientLoc.waits_ofResult r) hp hf
  have hret : s.retained = [r] := by simp only [Connection.retained, hp, hf]
  have hfly : s.flying = [] := by simp only [Connection.flying, hp, hf]
  have hlog : messages (s.delivered ++ [r]) = messages s.delivered ++ (ClientLoc.ofResult r).message := by
    cases r <;> simp [messages, ClientLoc.ofResult, ClientLoc.message, Except.toOption]
  refine hrec.lossless ?_ ?_ ?_
  · exact hlog ▸ (Pool.flatMap_set_perm hloc hm _).trans (h.log.append_right _)
  · exact (h.exact.trans (by rw [hret]; rfl)).trans (List.append_nil _).symm
  · exact h.returned.trans (by rw [hfly]; rfl)

/-- A waiter that is cancelled leaves the native receive where it is. -/
theorem Lossless.cancelled (h : Lossless config s) {i k : Nat} {outer : Future} {c : Bool}
    (hloc : s.calls[i]? = some (.awaiting k outer c)) :
    Lossless config (receiveEnds s i k .cancelled) := by
  obtain ⟨hkeep, hrec⟩ := h.recorded.cancelled hloc
  have hsame : (s.calls.set i .cancelled).flatMap ClientLoc.message = s.calls.flatMap ClientLoc.message :=
    Pool.flatMap_set hloc rfl
  refine hrec.lossless ((List.Perm.of_eq hsame).trans h.log) ?_ ?_
  · have hret : (receiveEnds s i k .cancelled).retained = s.retained := by
      simp only [Connection.retained, hkeep]; rfl
    rw [hret]; exact h.exact
  · have hfly : (receiveEnds s i k .cancelled).flying = s.flying := by
      simp only [Connection.flying, hkeep]; rfl
    rw [hfly]; exact h.returned

/-- The result of the retained receive reaches its future. -/
theorem Lossless.settle (h : Lossless config s) {k : Nat} {r : Except DriverError InboundMessage}
    (hf : s.futures[k]? = some .pending) (hr : s.native.receives[k]? = some (.returned r)) :
    Lossless config { s with
      futures := s.futures.set k (.done r)
      settled := s.settled ++ [r] } := by
  have hk := (List.getElem?_eq_some_iff.mp hf).1
  have hp := h.pending k hf
  have hself : (s.futures.set k (.done r))[k]? = some (.done r) := List.getElem?_set_self hk
  refine (h.recorded.settle hf hr).lossless h.log ?_ ?_
  · have hret : s.retained = [] := by simp only [Connection.retained, hp, hf]
    have hret' : Connection.retained { s with
        futures := s.futures.set k (.done r), settled := s.settled ++ [r] } = [r] := by
      simp only [Connection.retained, hp, hself]
    rw [hret', h.exact, hret, List.append_nil]
  · have hfly : s.flying = ReceiveLoc.message (.returned r) := by
      simp only [Connection.flying, hp, hf, hr]
    have hfly' : Connection.flying { s with
        futures := s.futures.set k (.done r), settled := s.settled ++ [r] } = [] := by
      simp only [Connection.flying, hp, hself]
    rw [hfly', h.returned, hfly]
    cases r <;> simp [messages, ReceiveLoc.message, Except.toOption]

/-- A call with nothing retained starts the next native receive. -/
theorem Lossless.begin (h : Lossless config s) {i : Nat} {loc : ClientLoc} {t : St}
    (hloc : s.calls[i]? = some loc) (hm : loc.message = []) (hidle : s.receiveWaiterActive = false)
    (hp : s.pendingReceive = none) (hst : step config s.native .callReceive = some t) :
    Lossless config { s.callAt i (.awaiting s.futures.length .pending false) with
      native := t
      futures := s.futures ++ [.pending]
      pendingReceive := some s.futures.length
      receiveWaiterActive := true } := by
  have hrec := h.recorded.begin hloc hidle hp hst
  obtain ⟨-, hst⟩ := Option.ite_none_right_eq_some.mp hst
  cases hst
  have hnew : (s.futures ++ [Future.pending])[s.futures.length]? = some .pending := by simp
  refine hrec.lossless ((List.Perm.of_eq (Pool.flatMap_set hloc hm.symm)).trans h.log) ?_ ?_
  · have hret : s.retained = [] := by simp only [Connection.retained, hp]
    have hexact := h.exact
    rw [hret] at hexact
    simpa [Connection.retained, Connection.callAt] using hexact
  · have hfly : s.flying = [] := by simp only [Connection.flying, hp]
    have hstart : (s.native.receives ++ [ReceiveLoc.start])[s.futures.length]? = some .start := by
      rw [← h.lengths]; simp
    have hreturned := h.returned
    rw [hfly] at hreturned
    simpa [Connection.flying, Connection.callAt, hstart, ReceiveLoc.message] using hreturned

/-- A call finds the retained receive unsettled and waits for it. -/
theorem Lossless.rejoin (h : Lossless config s) {i k : Nat} {loc : ClientLoc}
    (hloc : s.calls[i]? = some loc) (hm : loc.message = []) (hidle : s.receiveWaiterActive = false)
    (hp : s.pendingReceive = some k) :
    Lossless config { s.callAt i (.awaiting k .pending false) with receiveWaiterActive := true } :=
  (h.recorded.rejoin hloc hidle hp).lossless
    ((List.Perm.of_eq (Pool.flatMap_set hloc hm.symm)).trans h.log) h.exact h.returned

theorem lossless_enter {i : Nat} (h : Lossless config s) (hloc : s.calls[i]? = some .start)
    (hst : enter config s i = some s') : Lossless config s' := by
  unfold enter at hst
  cases hact : s.receiveWaiterActive with
  | true =>
    simp only [hact, if_true, Option.some.injEq] at hst
    subst hst
    exact h.callAt hloc rfl rfl trivial
  | false =>
    simp only [hact, Bool.false_eq_true, if_false] at hst
    split at hst
    · rename_i hp
      obtain ⟨t, ht, rfl⟩ := Option.map_eq_some_iff.mp hst
      exact h.begin hloc rfl hact hp ht
    · rename_i k hp
      split at hst
      · -- the retained receive is awaited again
        cases hst
        exact h.rejoin hloc rfl hact hp
      · rename_i r hf
        cases hst
        exact h.deliver hloc rfl (by rw [hact]; nofun) hp hf
      · exact absurd ‹_› (h.uncancelled k)
      · cases hst

/-! ## Runs -/

/-- Nobody throws into a coroutine or cancels a native receive. -/
def ClientLabel.forced : ClientLabel → Bool
  | .throw _ | .cancelNative _ => true
  | _ => false

theorem lossless_step (h : Lossless config s) (hl : l.forced = false)
    (hst : clientStep config s l = some s') : Lossless config s' := by
  cases l with
  | native l =>
    obtain ⟨hal, hst⟩ := Option.ite_none_right_eq_some.mp hst
    obtain ⟨t, ht, rfl⟩ := Option.map_eq_some_iff.mp hst
    exact lossless_native h hal ht
  | call =>
    cases hst
    refine { h with waiting := ?_, calls := Pool.forall_snoc h.calls trivial, log := ?_ }
    · rw [Pool.weigh_append]; exact h.waiting
    · rw [List.flatMap_append]; exact (List.append_nil _).symm ▸ h.log
  | enter i =>
    simp only [clientStep] at hst
    split at hst
    · exact lossless_enter h ‹_› hst
    · cases hst
  | settle k =>
    simp only [clientStep] at hst
    split at hst
    · cases hst; exact h.settle ‹_› ‹_›
    · cases hst
  | propagate i =>
    simp only [clientStep] at hst
    split at hst
    · rename_i k c hloc
      have hok := h.calls _ (List.mem_of_getElem? hloc)
      split at hst
      · cases hst
      · cases hst
      · rename_i outer _ hnp hf
        cases hst
        refine h.callAt hloc rfl rfl ⟨hok.1, fun r hr => ?_⟩
        rw [hf, hr]
    · cases hst
  | cancel i =>
    simp only [clientStep] at hst
    split at hst
    · rename_i hloc
      cases hst; exact h.callAt hloc rfl rfl trivial
    · rename_i hloc
      have hok := h.calls _ (List.mem_of_getElem? hloc)
      cases hst; exact h.callAt hloc rfl rfl ⟨hok.1, by rintro _ ⟨⟩⟩
    · rename_i hloc
      have hok := h.calls _ (List.mem_of_getElem? hloc)
      cases hst; exact h.callAt hloc rfl rfl hok
    · cases hst
  | resume i =>
    simp only [clientStep] at hst
    split at hst
    · cases hst
    · cases hst; exact h.cancelled ‹_›
    · cases hst; exact h.cancelled ‹_›
    · rename_i hloc
      obtain ⟨hp, hd⟩ := h.calls _ (List.mem_of_getElem? hloc)
      cases hst
      exact h.deliver hloc rfl (fun _ => rfl) hp (hd _ rfl)
    · cases hst
  | throw i | cancelNative k => cases hl

/-! ## The result -/

structure LosslessReceive (config : ConnectionConfig) (s : Connection) : Prop where
  /-- What native receives have produced has been delivered, in order, up to the one result that is
  retained. -/
  exact : s.settled = s.delivered ++ s.retained
  /-- The messages delivered are those that calls have returned, each of them by one call. -/
  log : (s.calls.flatMap ClientLoc.message).Perm (messages s.delivered)
  /-- What native receives produce is what the driver returned. -/
  produced : messages s.settled <+: s.native.hist.returned
  /-- From end to end: the messages delivered are those the reader took from the transport. -/
  wire : messages s.delivered <+: s.native.hist.read
  /-- At most one native receive is in flight. -/
  inFlight : ∀ j k : Nat, s.futures[j]? = some .pending → s.futures[k]? = some .pending → j = k
  /-- A result that settled without a waiter is the result of the next call, an error too. -/
  next : ∀ i k r, s.calls[i]? = some .start → s.receiveWaiterActive = false →
    s.pendingReceive = some k → s.futures[k]? = some (.done r) → ∃ s',
      clientStep config s (.enter i) = some s' ∧ s'.calls[i]? = some (.ofResult r) ∧
        s'.delivered = s.delivered ++ [r] ∧ s'.pendingReceive = none
  /-- `ConcurrencyError` is raised only beside another waiter, and changes nothing else. -/
  busy : ∀ l s' i m, l.forced = false → clientStep config s l = some s' →
    s'.calls[i]? = some (.raised (.concurrency m)) → s.calls[i]? = some (.raised (.concurrency m)) ∨
      l = .enter i ∧ (∃ j k outer c, j ≠ i ∧ s.calls[j]? = some (.awaiting k outer c)) ∧
        s' = s.callAt i (.raised receiveBusy)

theorem lossless_receive (config : ConnectionConfig) (ls : List ClientLabel) (s : Connection)
    (h : Lts.run (clientStep config) (connect config) ls = some s) (hls : ∀ l ∈ ls, l.forced = false) :
    LosslessReceive config s := by
  have hinv : Lossless config s := ((Lts.path_of_run h).restrict hls).invariant
    (fun _ _ _ hs hok hst => lossless_step hs hok.2 hst) (lossless_connect config)
  have hproduced : messages s.settled <+: s.native.hist.returned := ⟨s.flying, hinv.returned.symm⟩
  constructor
  · exact hinv.exact
  · exact hinv.log
  · exact hproduced
  · have hd : messages s.delivered <+: messages s.settled :=
      ⟨messages s.retained, by rw [hinv.exact]; simp [messages]⟩
    exact (hd.trans hproduced).trans (delivery_reachable hinv.native).returned_isPrefix
  · intro j k hj hk
    exact Option.some.inj ((hinv.pending j hj).symm.trans (hinv.pending k hk))
  · intro i k r hi hact hp hf
    refine ⟨receiveEnds s i k (.result r), ?_, ?_, rfl, rfl⟩
    · simp only [clientStep, hi, enter, hact, hp, hf, Bool.false_eq_true, if_false]
    · exact List.getElem?_set_self (List.getElem?_eq_some_iff.mp hi).1
  · intro l s' i m hl hst hx
    exact hinv.recorded.busy hst hx

/-- A waiter is cancelled after its native receive has settled; the next call gets the message. -/
def cancelledWaiterRun : List ClientLabel :=
  [.native (.reader .next), .native (.reader .next), .native (.reader (.item (some (.ok (.binary [1]))))),
    .native (.reader .next), .native (.reader .next), .native (.reader .next), .call, .enter 0,
    .native (.receive 0 .next), .native (.receive 0 .next), .native (.receive 0 .next),
    .native (.receive 0 .next), .native (.receive 0 .next), .settle 0, .cancel 0, .resume 0, .call,
    .enter 1]

theorem lossless_receive_cancelledWaiter :
    LosslessReceive .tiny (Lts.after (clientStep .tiny) (connect .tiny) cancelledWaiterRun) ∧
      (Lts.after (clientStep .tiny) (connect .tiny) cancelledWaiterRun).calls =
        [.cancelled, .returned (.binary [1])] :=
  ⟨lossless_receive .tiny cancelledWaiterRun _ (Lts.run_after rfl) (by decide), rfl⟩

end FogWS
