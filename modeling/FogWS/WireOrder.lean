import FogWS.Sending
/-!
# The order on the wire

`send_text` and `send_bytes` reserve a slot in the calling thread (py.rs:69, py.rs:89), but the message
enters the queue only when the future they spawn runs for the first time.

| here | there |
| --- | --- |
| `Label.callAdmit`, then the steps of send `i` up to `.admitted` | the call, on the owner loop |
| `SendAct.handOver` | the first poll of the spawned future (py.rs:74, py.rs:94) |
| the order of these steps in a run | the schedule of the two worker threads (runtime.rs:16) |

Nothing orders these first polls, so the order of the calls is not kept in general
(`wire_order_reversed`). What is kept is the order of the first polls.
-/
namespace FogWS

variable {config : ConnectionConfig} {s s' : St} {l : Label}

/-- The send whose future runs for the first time in this step, and hands its command over. -/
def Label.firstRun (s : St) : Label → List Nat
  | .send i (.handOver message) =>
    match s.sends[i]? with
    | some (.admitted size) => if message.len = size then [i] else []
    | _ => []
  | _ => []

/-- The sends in the order in which their futures first run. -/
def firstRuns (config : ConnectionConfig) : St → List Label → List Nat :=
  Lts.trace (step config) fun s l => l.firstRun s

/-- The call has not handed its command over, and may still do so. -/
def SendLoc.early : SendLoc → Bool
  | .start _ | .acquire _ | .reserve _ | .refuse _ | .giveBack _ _ _ | .admitted _ => true
  | _ => false

/-- A call is made once the futures of all earlier calls have run for the first time. -/
def CallsInTurn (s : St) (l : Label) : Prop :=
  ∀ size, l = .callAdmit size → ∀ loc ∈ s.sends, loc.early = false

/-! ## First runs -/

/-- A future that runs for the first time appends its command, and no other step does. -/
theorem handed_firstRun (hst : step config s l = some s') :
    s'.hist.handed.map (·.id) = s.hist.handed.map (·.id) ++ l.firstRun s := by
  by_cases hl : ∃ i m, l = .send i (.handOver m)
  · obtain ⟨i, m, rfl⟩ := hl
    obtain ⟨loc, hloc, hst⟩ := Option.bind_eq_some_iff.mp hst
    cases sendStep_rule hst with
    | handOver => simp [Label.firstRun, hloc]
    | mismatch size _ hm => simp [Label.firstRun, hloc, hm, St.sendAt]
  · have hnone : l.firstRun s = [] := by
      cases l with
      | send i a =>
        cases a with
        | handOver m => exact absurd ⟨i, m, rfl⟩ hl
        | _ => rfl
      | _ => rfl
    rcases step_handed hst with heq | ⟨i, m, rfl, -⟩
    · rw [heq, hnone, List.append_nil]
    · exact absurd ⟨i, m, rfl⟩ hl

theorem handed_eq_firstRuns {ls : List Label} (h : Lts.run (step config) (start config) ls = some s) :
    s.hist.handed.map (·.id) = firstRuns config (start config) ls :=
  Lts.trace_eq (f := fun s => s.hist.handed.map (·.id)) (fun _ _ _ => handed_firstRun) h

/-! ## Calls in turn -/

/-- Only the last call can still hand its command over, so the commands are in the order of the
calls. -/
structure InTurn (s : St) : Prop where
  last : ∀ (i : Nat) loc, s.sends[i]? = some loc → loc.early = true → i + 1 = s.sends.length
  sorted : (s.hist.handed.map (·.id)).Pairwise (· < ·)

theorem inTurn_start (config : ConnectionConfig) : InTurn (start config) := ⟨by rintro _ _ ⟨⟩, .nil⟩

theorem InTurn.of_eq (h : InTurn s) (hs : s'.sends = s.sends) (hh : s'.hist.handed = s.hist.handed) :
    InTurn s' := by
  constructor
  · rw [hs]; exact h.last
  · rw [hh]; exact h.sorted

/-- A call that has handed its command over, or never will, stays so. -/
theorem SendQuiet.early {i : Nat} {loc loc' : SendLoc} {a : SendAct} (q : SendQuiet s s' i loc loc')
    (hst : sendStep config s i loc a = some s') (h : loc'.early = true) : loc.early = true := by
  have hadm : loc'.Admitting := by cases loc' <;> trivial
  have hbefore := q.admitting hadm
  cases loc with
  | refused => rw [sendStep_over rfl] at hst; cases hst
  | start | acquire | reserve | refuse | giveBack | admitted => rfl
  | _ => cases hbefore

theorem inTurn_send {i : Nat} {a : SendAct} {loc : SendLoc} (hd : Discipline s) (h : InTurn s)
    (hloc : s.sends[i]? = some loc) (hst : sendStep config s i loc a = some s') : InTurn s' := by
  have hi := (List.getElem?_eq_some_iff.mp hloc).1
  rcases sendStep_move hst with ⟨m, rfl, rfl, rfl⟩ | ⟨loc', hset, q⟩
  · constructor
    · intro j x hj hx
      rcases Pool.get_set hj with hj | ⟨-, rfl⟩
      · simpa [handOver, St.sendAt] using h.last j x hj hx
      · cases hx
    · -- every command handed over so far belongs to an earlier call
      simp only [handOver, List.map_append, List.map_cons, List.map_nil]
      refine List.pairwise_append.mpr ⟨h.sorted, List.pairwise_singleton _ _, fun x hx y hy => ?_⟩
      obtain ⟨c, hc, rfl⟩ := List.mem_map.mp hx
      obtain ⟨loc, hl, hsent⟩ := hd.handed c hc
      rw [List.mem_singleton.mp hy]
      have hlast := h.last _ _ hloc rfl
      have hlt := (List.getElem?_eq_some_iff.mp hl).1
      have hne : c.id ≠ i := by
        rintro rfl
        rw [hloc] at hl
        cases hl; cases hsent
      omega
  · refine ⟨fun j x hj hx => ?_, by rw [q.handed]; exact h.sorted⟩
    rw [hset] at hj ⊢
    rw [List.length_set]
    rcases Pool.get_set hj with hj | ⟨rfl, rfl⟩
    · exact h.last j x hj hx
    · exact h.last _ loc hloc (q.early hst hx)

theorem inTurn_step (hd : Discipline s) (h : InTurn s) (hok : CallsInTurn s l)
    (hst : step config s l = some s') : InTurn s' := by
  cases step_move hst with
  | reader f | writer f => exact h.of_eq f.sends f.handed
  | control f | receive f => exact h.of_eq f.sends (by rw [f.hist])
  | send _ hloc hst => exact inTurn_send hd h hloc hst
  | callAdmit size =>
    refine ⟨fun j x hj hx => ?_, h.sorted⟩
    rcases Nat.lt_or_ge j s.sends.length with hlt | hge
    · rw [List.getElem?_append_left hlt] at hj
      rw [hok size rfl x (List.mem_of_getElem? hj)] at hx
      cases hx
    · have hj' := (List.getElem?_eq_some_iff.mp hj).1
      simp only [List.length_append, List.length_singleton] at hj' ⊢
      omega
  | callReceive | dropDriver | dropFields => exact h.of_eq rfl rfl

/-! ## The result -/

structure WireOrder (config : ConnectionConfig) (ls : List Label) (s : St) : Prop where
  /-- Messages are passed to the sink in the order in which the futures of their sends first ran, none
  of them left out. -/
  firstRuns : s.hist.passed.map (·.id) <+: firstRuns config (start config) ls
  /-- So they are passed in the order of the calls if the futures first ran in that order, -/
  calls : (FogWS.firstRuns config (start config) ls).Pairwise (· < ·) →
    (s.hist.passed.map (·.id)).Pairwise (· < ·)
  /-- in particular if no call is made while the future of an earlier one has yet to run. -/
  inTurn : Lts.Path (step config) CallsInTurn (start config) ls s →
    (s.hist.passed.map (·.id)).Pairwise (· < ·)

/-- **The order on the wire is the order of the first runs.** -/
theorem wire_order (config : ConnectionConfig) (ls : List Label) (s : St)
    (h : Lts.run (step config) (start config) ls = some s) : WireOrder config ls s := by
  have hpassed : s.hist.passed.map (·.id) <+: s.hist.handed.map (·.id) :=
    (discipline_reachable ⟨ls, h⟩).passed.map _
  constructor
  · rw [← handed_eq_firstRuns h]
    exact hpassed
  · intro hsorted
    rw [← handed_eq_firstRuns h] at hsorted
    exact hsorted.sublist hpassed.sublist
  · intro hpath
    have hinv := hpath.invariant (P := fun s => Lifecycle s ∧ Discipline s ∧ InTurn s)
      (fun _ _ _ ⟨hl, hd, ht⟩ hok hst => ⟨(lifecycle_step hl hst).1, discipline_step hl hd hst,
        inTurn_step hd ht hok hst⟩)
      ⟨lifecycle_start config, discipline_start config, inTurn_start config⟩
    exact hinv.2.2.sorted.sublist hpassed.sublist

/-- Two calls, one after the other, both admitted before any of their futures has run. -/
def pipelinedCalls : List Label :=
  [.callAdmit 1, .send 0 .next, .send 0 .next, .send 0 .next, .callAdmit 1, .send 1 .next, .send 1 .next,
    .send 1 .next]

/-- The future of the second call runs first, and the writer passes both messages. -/
def reversedRun : List Label :=
  pipelinedCalls ++ [.send 1 (.handOver (.binary [2])), .send 0 (.handOver (.binary [1])), .writer .next,
    .writer .next, .writer .outbound, .writer .next, .writer .sinkOk, .writer .next, .writer .next,
    .writer .next, .writer .outbound, .writer .next, .writer .sinkOk]

/-- A connection with two slots in each direction. -/
def ConnectionConfig.pair : ConnectionConfig := ⟨1, 4, 4, 2⟩

theorem wire_order_reversed :
    ConnectionConfig.new 64 2 4 4 (some 1) = .ok .pair ∧
      (Lts.after (step .pair) (start .pair) pipelinedCalls).sends = [.admitted 1, .admitted 1] ∧
      (Lts.run (step .pair) (start .pair) reversedRun).isSome ∧
      (Lts.after (step .pair) (start .pair) reversedRun).hist.passed =
        [⟨1, .binary [2], 1⟩, ⟨0, .binary [1], 1⟩] ∧
      ¬((Lts.after (step .pair) (start .pair) reversedRun).hist.passed.map (·.id)).Pairwise (· < ·) := by
  refine ⟨rfl, rfl, rfl, rfl, fun h => ?_⟩
  have hlt := (List.pairwise_cons.mp h).1 0 List.mem_cons_self
  exact absurd hlt (by decide)

/-- The same calls, with the futures run in their order. -/
def pipelinedRun : List Label :=
  pipelinedCalls ++ [.send 0 (.handOver (.binary [1])), .send 1 (.handOver (.binary [2])), .writer .next,
    .writer .next, .writer .outbound, .writer .next, .writer .sinkOk, .writer .next, .writer .next,
    .writer .next, .writer .outbound, .writer .next, .writer .sinkOk]

theorem wire_order_pipelined :
    WireOrder .pair pipelinedRun (Lts.after (step .pair) (start .pair) pipelinedRun) ∧
      (Lts.after (step .pair) (start .pair) pipelinedRun).hist.passed =
        [⟨0, .binary [1], 1⟩, ⟨1, .binary [2], 1⟩] :=
  ⟨wire_order .pair pipelinedRun _ (Lts.run_after rfl), rfl⟩

end FogWS
