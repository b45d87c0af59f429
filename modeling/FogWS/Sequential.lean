import FogWS.Admission
import FogWS.Outcome
import FogWS.Sending
/-!
# The budget of a send that has returned

The writer answers a command before it drops the command's byte permit (driver.rs:630-633), so the
sender may be running again while the permit of its last message is still out.

| here | there |
| --- | --- |
| `WriterLoc.release` | between `response.send(Ok(()))` and the end of the match arm |
| `Settled` | the moment of a `try_admit_outbound` whose caller has awaited every earlier send |
| `RoomLeft` | at that moment the permit of the answered command is not needed |

`Owed` says that this is the only such place: a command whose bytes are out has not been answered
`Ok`, unless the writer stands right there. `InCall` follows one call from that moment on.
-/
namespace FogWS

variable {config : ConnectionConfig} {s s' : St} {l : Label} {i n : Nat}

/-! ## Who has been answered -/

structure Owed (s : St) : Prop where
  handed : ∀ c ∈ s.held, c ∈ s.hist.handed
  queued : ∀ c ∈ s.outbound.channel.queue, s.outbound.responses c.id ≠ .answered (.ok ())
  /-- The writer drops the permit right after the answer. -/
  inFlight : ∀ c, s.writer.loc.inFlight = some c →
    s.outbound.responses c.id = .answered (.ok ()) → s.writer.loc = .release c
  returned : ∀ i, s.sends[i]? = some (.returned (.ok ())) →
    s.outbound.responses i = .answered (.ok ())

theorem owed_start (config : ConnectionConfig) : Owed (start config) where
  handed := List.forall_mem_nil _
  queued := List.forall_mem_nil _
  inFlight := by rintro _ ⟨⟩
  returned := by rintro _ ⟨⟩

/-- A step of a process that neither sends nor writes. -/
theorem Owed.of_eq (h : Owed s) (hw : s'.writer = s.writer) (hs : s'.sends = s.sends)
    (ho : s'.outbound = s.outbound) (hh : s'.hist.handed = s.hist.handed) : Owed s' := by
  have hheld : s'.held = s.held := by simp only [St.held, hw, ho]
  constructor
  · rw [hheld, hh]; exact h.handed
  · rw [ho]; exact h.queued
  · rw [hw, ho]; exact h.inFlight
  · rw [hs, ho]; exact h.returned

theorem Outbound.respond_self (o : Outbound) (id : Nat) (r : Response) :
    (o.respond id r).responses id = r := by
  simp [Outbound.respond]

theorem Outbound.respond_ne (o : Outbound) {id j : Nat} (r : Response) (h : j ≠ id) :
    (o.respond id r).responses j = o.responses j := by
  simp [Outbound.respond, h]

/-- Dropping commands leaves an answered response as it is. -/
theorem Outbound.discard_answered {o : Outbound} {cs : List OutboundCommand} {j : Nat}
    {r : Except DriverError Unit} (h : o.responses j = .answered r) :
    (o.discard cs).responses j = .answered r := by
  simp only [Outbound.discard, h]

/-- The command that is being answered is not queued any more. -/
theorem Discipline.answering (h : Discipline s) {c : OutboundCommand} (hloc : s.writer.loc = .answer c) :
    ∀ x ∈ s.outbound.channel.queue, x.id ≠ c.id := by
  intro x hx hid
  have hsucc := h.writing c hloc
  have hpassed : c ∈ s.hist.passed := by
    rcases h.last with hp | ⟨-, y, hp⟩
    · rw [hp]; exact List.mem_append_left _ hsucc
    · rw [hp]; exact List.mem_append_left _ hsucc
  have hnodup := h.nodup
  rw [h.order (by rw [hloc]; rfl), List.map_append, List.map_append] at hnodup
  refine (List.nodup_append.mp hnodup).2.2 c.id ?_ x.id (List.mem_map_of_mem hx) hid.symm
  exact List.mem_append_left _ (List.mem_map_of_mem hpassed)

theorem owed_writer {a : WriterAct} (hd : Discipline s) (h : Owed s)
    (hst : writerStep s s.writer.loc a = some s') : Owed s' := by
  have f := writerStep_frame hst
  have m := writerStep_move hst
  have hheld : ∀ c ∈ s'.held, c ∈ s'.hist.handed := by
    intro c hc
    rw [f.handed]
    apply h.handed
    rcases (m.held rfl).1 with ⟨hh, -⟩ | ⟨c', -, hh, -⟩ | ⟨-, hh, -⟩
    · rw [← hh]; exact hc
    · rw [hh]; exact List.mem_cons_of_mem _ hc
    · rw [hh] at hc; cases hc
  have hret : (∀ j, s.outbound.responses j = .answered (.ok ()) →
      s'.outbound.responses j = .answered (.ok ())) →
      ∀ j, s'.sends[j]? = some (.returned (.ok ())) → s'.outbound.responses j = .answered (.ok ()) := by
    intro hkeep j hj
    rw [f.sends] at hj
    exact hkeep j (h.returned j hj)
  have hflight := h.inFlight
  generalize hloc : s.writer.loc = loc at m hflight
  cases m with
  | take c channel hq hcl hload =>
    refine ⟨hheld, fun x hx => h.queued x ?_, fun x hx hr => ?_, hret fun _ hr => hr⟩
    · rw [hq]; exact List.mem_cons_of_mem _ hx
    · -- a queued command has not been answered
      cases hx
      exact absurd hr (h.queued c (by rw [hq]; exact List.mem_cons_self))
  | pass c | succeed c =>
    refine ⟨hheld, h.queued, fun x hx hr => ?_, hret fun _ hr => hr⟩
    cases hx
    cases hflight c rfl hr
  | answer c =>
    refine ⟨hheld, fun x hx => ?_, fun x hx _ => ?_, hret fun j hr => ?_⟩
    · dsimp only
      rw [Outbound.respond_ne _ _ (hd.answering hloc x hx)]
      exact h.queued x hx
    · cases hx; rfl
    · by_cases hj : j = c.id
      · subst hj; exact Outbound.respond_self _ _ _
      · exact (Outbound.respond_ne _ _ hj).trans hr
  | release c => exact ⟨hheld, h.queued, by rintro _ ⟨⟩, hret fun _ hr => hr⟩
  | refuse terminal c =>
    refine ⟨hheld, fun x hx => ?_, fun x hx hr => ?_, hret fun j hr => ?_⟩
    · by_cases hj : x.id = c.id
      · dsimp only
        rw [hj, Outbound.respond_self]; rintro ⟨⟩
      · dsimp only
        rw [Outbound.respond_ne _ _ hj]; exact h.queued x hx
    · cases hx
      dsimp only at hr
      rw [Outbound.respond_self] at hr; cases hr
    · by_cases hj : j = c.id
      · subst hj; cases hflight c rfl hr
      · exact (Outbound.respond_ne _ _ hj).trans hr
  | frame => exact ⟨hheld, h.queued, by rintro _ ⟨⟩, hret fun _ hr => hr⟩
  | gone =>
    exact ⟨hheld, List.forall_mem_nil _, by rintro _ ⟨⟩, hret fun _ hr => Outbound.discard_answered hr⟩
  | quiet loc s' hhist hout hfl _ _ _ hrelease =>
    refine ⟨hheld, by rw [hout]; exact h.queued, fun x hx hr => ?_, hret fun j hr => by rw [hout]; exact hr⟩
    rw [hfl] at hx
    rw [hout] at hr
    have hrel := hflight x hx hr
    subst hrel
    -- the writer leaves that place only by dropping the permit
    rw [hloc] at hst
    cases a with
    | next => cases hst; cases hfl
    | _ => cases hst

theorem owed_send {a : SendAct} {loc : SendLoc} (hd : Discipline s) (h : Owed s)
    (hloc : s.sends[i]? = some loc) (hst : sendStep config s i loc a = some s') : Owed s' := by
  have f := sendStep_frame hst
  have hi := (List.getElem?_eq_some_iff.mp hloc).1
  rcases sendStep_move hst with ⟨m, -, rfl, rfl⟩ | ⟨loc', hset, q⟩
  · have hheld : (handOver s i m).held = s.held ++ [⟨i, m, m.len⟩] := by
      simp [St.held, handOver, Mpsc.push, St.sendAt]
    -- the admission of this call has handed nothing over before
    have hne : ∀ c ∈ s.held, c.id ≠ i := by
      rintro c hc rfl
      obtain ⟨loc, hl, hsent⟩ := hd.handed c (h.handed c hc)
      rw [hloc] at hl
      cases hl; cases hsent
    have hresp : ∀ j, j ≠ i → (handOver s i m).outbound.responses j = s.outbound.responses j :=
      fun j hj => Outbound.respond_ne _ _ hj
    constructor
    · intro c hc
      rw [hheld] at hc
      rcases List.mem_append.mp hc with hc | hc
      · exact List.mem_append_left _ (h.handed c hc)
      · exact List.mem_append_right _ hc
    · intro c hc
      rcases List.mem_append.mp hc with hc | hc
      · rw [hresp _ (hne c (List.mem_append_right _ hc))]
        exact h.queued c hc
      · rw [List.mem_singleton.mp hc]
        simp [handOver, Outbound.respond]
    · intro c hc hr
      have hmem : c ∈ s.held := List.mem_append_left _ (Option.mem_toList.mpr hc)
      rw [hresp _ (hne c hmem)] at hr
      exact h.inFlight c hc hr
    · intro j hj
      by_cases hji : j = i
      · subst hji
        simp [handOver, St.sendAt, hi] at hj
      · rw [hresp j hji]
        rw [handOver, St.sendAt, List.getElem?_set_ne (Ne.symm hji)] at hj
        exact h.returned j hj
  · have hheld : s'.held = s.held := by simp only [St.held, f.writer, q.queue]
    refine ⟨by rw [hheld, q.handed]; exact h.handed, by rw [q.queue, q.responses]; exact h.queued,
      by rw [f.writer, q.responses]; exact h.inFlight, fun j hj => ?_⟩
    rw [q.responses]
    rw [hset] at hj
    by_cases hji : i = j
    · subst hji
      rw [List.getElem?_set_self hi, Option.some.injEq] at hj
      exact q.ok hj
    · rw [List.getElem?_set_ne hji] at hj
      exact h.returned j hj

theorem owed_step (hd : Discipline s) (h : Owed s) (hst : step config s l = some s') : Owed s' := by
  cases step_move hst with
  | reader f => exact h.of_eq f.writer f.sends f.outbound f.handed
  | writer _ hst => exact owed_writer hd h hst
  | control f | receive f => exact h.of_eq f.writer f.sends f.outbound (by rw [f.hist])
  | send _ hloc hst => exact owed_send hd h hloc hst
  | callAdmit =>
    refine ⟨h.handed, h.queued, h.inFlight, fun j hj => ?_⟩
    rcases Nat.lt_or_ge j s.sends.length with hlt | hge
    · exact h.returned j (List.getElem?_append_left hlt ▸ hj)
    · rw [List.getElem?_append_right hge] at hj
      cases List.mem_singleton.mp (List.mem_of_getElem? hj)
  | callReceive | dropDriver => exact h.of_eq rfl rfl rfl rfl
  | dropFields =>
    cases hcl : s.outbound.channel.closed with
    | false => exact h.of_eq rfl rfl (by simp only [dropFields, hcl]; rfl) rfl
    | true =>
      simp only [dropFields, hcl, if_true]
      refine ⟨fun c hc => h.handed c ?_, List.forall_mem_nil _, fun c hc hr => ?_, fun j hj => ?_⟩
      · simp only [St.held, Mpsc.dropReceiver, List.append_nil] at hc ⊢
        exact List.mem_append_left _ hc
      · rcases Outbound.discard_cases s.outbound s.outbound.channel.queue c.id with he | he
        · exact h.inFlight c hc (he ▸ hr)
        · cases he.symm.trans hr
      · exact Outbound.discard_answered (h.returned j hj)

theorem owed_reachable (h : Reachable config s) : Owed s :=
  (h.invariant (P := fun s => Lifecycle s ∧ Discipline s ∧ Owed s)
    ⟨lifecycle_start config, discipline_start config, owed_start config⟩
    fun _ _ _ ⟨hl, hd, ho⟩ hst => ⟨(lifecycle_step hl hst).1, discipline_step hl hd hst,
      owed_step hd ho hst⟩).2.2

/-! ## One call after all the others -/

/-- The caller has nothing to wait for: the call has not begun, was refused, or has returned `Ok`. -/
def SendLoc.Settled : SendLoc → Prop
  | .start _ | .refused _ _ | .returned (.ok ()) => True
  | _ => False

/-- `try_admit_outbound(n)` is about to run as call `i`: the connection is open, the size is allowed,
and every admission granted before belongs to a send that has returned `Ok`. -/
structure Settled (config : ConnectionConfig) (s : St) (i n : Nat) : Prop where
  call : s.sends[i]? = some (.start n)
  opened : s.cells.state.value = .opened
  size_le : n ≤ config.maxMessageSize
  others : ∀ (j : Nat) loc, s.sends[j]? = some loc → loc.Settled

/-- No step of another send. The call runs on the thread of the owner loop from its start to its end
(py.rs:57), so no other send begins or goes on meanwhile. -/
def Label.sparesSends (i : Nat) : Label → Bool
  | .send j _ => j == i
  | _ => true

/-- The call is about to be granted, or it has been. -/
def SendLoc.Granting (n : Nat) : SendLoc → Prop
  | .start size | .acquire size | .reserve size | .admitted size => size = n
  | .mismatched _ | .response | .terminal | .returned _ | .dropped => True
  | .refuse _ | .giveBack _ _ _ | .refused _ _ => False

/-- Call `i` succeeds, whatever the tasks do meanwhile. -/
structure Grants (config : ConnectionConfig) (s : St) (i n : Nat) : Prop where
  /-- Its own three steps grant it. -/
  granted : ∃ u, Lts.run (step config) s [.send i .next, .send i .next, .send i .next] = some u ∧
    u.sends[i]? = some (.admitted n)
  /-- In every interleaving it is on its way while the connection is open. -/
  onTrack : ∀ ls u, Lts.Path (step config) (fun _ l => l.sparesSends i = true) s ls u →
    u.cells.state.value = .opened → ∃ loc, u.sends[i]? = some loc ∧ loc.Granting n
  /-- It is never refused for want of capacity. -/
  refused : ∀ ls u why e, Lts.Path (step config) (fun _ l => l.sparesSends i = true) s ls u →
    u.sends[i]? = some (.refused why e) → ∀ m, e ≠ .resourceLimit m

/-- When a call runs after all the others, the permit that the writer has not dropped yet, if any, is
not needed for it. -/
def RoomLeft (config : ConnectionConfig) (s : St) (l : Label) : Prop :=
  ∀ i n, l = .send i .next → Settled config s i n → ∀ c, s.writer.loc = .release c →
    c.permit + n ≤ config.maxBufferedBytes

/-- All that is out is the permit the writer is about to drop. -/
theorem Settled.held (h : Settled config s i n) (hr : Reachable config s) :
    s.held = [] ∨ ∃ c, s.writer.loc = .release c ∧ s.held = [c] := by
  have ho := owed_reachable hr
  have hd := discipline_reachable hr
  have hanswered : ∀ c ∈ s.held, s.outbound.responses c.id = .answered (.ok ()) := by
    intro c hc
    obtain ⟨loc, hloc, hsent⟩ := hd.handed c (ho.handed c hc)
    have hset := h.others _ loc hloc
    cases loc with
    | returned r =>
      cases r with
      | ok => exact ho.returned _ hloc
      | error => cases hset
    | response | terminal | dropped => cases hset
    | _ => cases hsent
  have hqueue : s.outbound.channel.queue = [] := by
    rw [List.eq_nil_iff_forall_not_mem]
    intro c hc
    exact ho.queued c hc (hanswered c (List.mem_append_right _ hc))
  cases hf : s.writer.loc.inFlight with
  | none => exact .inl (by simp [St.held, hf, hqueue])
  | some c =>
    have hheld : s.held = [c] := by simp [St.held, hf, hqueue]
    refine .inr ⟨c, ho.inFlight c hf (hanswered c ?_), hheld⟩
    rw [hheld]; exact List.mem_cons_self

/-! ## What one call meets on its way -/

/-- There is room for `n` more bytes, and nothing is queued. -/
def Room (config : ConnectionConfig) (s : St) (n : Nat) : Prop :=
  s.outbound.channel.queue = [] ∧ Pool.weigh OutboundCommand.permit s.held + n ≤ config.maxBufferedBytes

def SendLoc.InCall (config : ConnectionConfig) (s : St) (n : Nat) : SendLoc → Prop
  | .start size | .acquire size | .reserve size | .refuse size | .admitted size =>
    size = n ∧ Room config s n
  | .giveBack _ _ e | .refused _ e => (∀ m, e ≠ .resourceLimit m) ∧ 1 ≤ s.cells.state.value.rank
  | .mismatched _ | .response | .terminal | .returned _ | .dropped => True

/-- Call `i` runs, and no other send has anything out. -/
structure InCall (config : ConnectionConfig) (s : St) (i n : Nat) : Prop where
  others : ∀ (j : Nat) loc, j ≠ i → s.sends[j]? = some loc → loc.Settled
  own : ∃ loc, s.sends[i]? = some loc ∧ loc.InCall config s n

theorem WriterMove.queue_nil {loc : WriterLoc} (m : WriterMove s loc s')
    (h : s.outbound.channel.queue = []) : s'.outbound.channel.queue = [] := by
  cases m with
  | take _ _ hq => rw [h] at hq; cases hq
  | gone => rfl
  | quiet _ _ _ hout => rw [hout]; exact h
  | _ => exact h

/-- Room is only used up by handing a command over. -/
theorem room_step (hl : ∀ j m, l ≠ .send j (.handOver m)) (h : Room config s n)
    (hst : step config s l = some s') : Room config s' n := by
  obtain ⟨hq, hw⟩ := h
  have hsame : s'.writer = s.writer → s'.outbound.channel.queue = s.outbound.channel.queue →
      Room config s' n := by
    intro h1 h2
    have hheld : s'.held = s.held := by simp only [St.held, h1, h2]
    exact ⟨h2.trans hq, by rw [hheld]; exact hw⟩
  cases step_move hst with
  | reader f | control f | receive f => exact hsame f.writer (by rw [f.outbound])
  | writer _ hst =>
    have m := writerStep_move hst
    refine ⟨m.queue_nil hq, ?_⟩
    rcases (m.held rfl).1 with ⟨hh, -⟩ | ⟨c, -, hh, -⟩ | ⟨-, hh, -⟩
    · rw [hh]; exact hw
    · rw [hh, Pool.weigh_cons] at hw; omega
    · rw [hh, Pool.weigh_nil]; omega
  | send f _ hst =>
    rcases sendStep_move hst with ⟨m, rfl, -⟩ | ⟨loc', -, q⟩
    · exact absurd rfl (hl _ m)
    · exact hsame f.writer q.queue
  | callAdmit | callReceive | dropDriver => exact hsame rfl rfl
  | dropFields =>
    cases hcl : s.outbound.channel.closed with
    | false => exact hsame rfl (by simp only [dropFields, hcl]; rfl)
    | true =>
      have hheld : (dropFields s).held = s.held := by
        simp [dropFields, hcl, St.held, hq, Mpsc.dropReceiver]
      exact ⟨by simp [dropFields, hcl, Mpsc.dropReceiver], by rw [hheld]; exact hw⟩

/-- A state that is not open refuses with its own error, which is no resource limit. -/
theorem ensureOpen_refuses {v : DriverState} {e : DriverError} (hv : ∀ x ∈ v.outcome, x.Genuine)
    (h : ensureOpen v = .error e) : (∀ m, e ≠ .resourceLimit m) ∧ 1 ≤ v.rank := by
  cases v with
  | opened => cases h
  | closing => cases h; exact ⟨by rintro m ⟨⟩, Nat.le_refl 1⟩
  | peerClosed o | closed o =>
    cases h
    refine ⟨?_, by simp [DriverState.rank]⟩
    rintro m rfl
    exact hv _ rfl

/-- The bytes that are free or in the call's hand leave room. -/
theorem InCall.budget (ha : Account config s) (h : InCall config s i n) {loc : SendLoc}
    (hloc : s.sends[i]? = some loc) (hroom : Room config s n) :
    n ≤ s.outbound.budget + loc.bytes := by
  have hothers : ∀ j x, j ≠ i → s.sends[j]? = some x → SendLoc.bytes x = 0 := by
    intro j x hj hx
    have hs := h.others j x hj hx
    cases x with
    | reserve | refuse | giveBack | admitted => cases hs
    | _ => rfl
  have hbytes := ha.bytes
  have hw := hroom.2
  rw [Pool.weigh_of_others hloc hothers] at hbytes
  omega

/-- Unless the channel is closed, a slot is free. -/
theorem InCall.slot (ha : Account config s) (hq : 0 < config.maxQueue) (h : InCall config s i n)
    {loc : SendLoc} (hloc : s.sends[i]? = some loc) (hnone : loc.slots = 0) (hroom : Room config s n) :
    0 < s.outbound.channel.free := by
  have hothers : ∀ j x, j ≠ i → s.sends[j]? = some x → SendLoc.slots x = 0 := by
    intro j x hj hx
    have hs := h.others j x hj hx
    cases x with
    | admitted => cases hs
    | _ => rfl
  have hslots := ha.slots
  rw [Pool.weigh_of_others hloc hothers, hnone] at hslots
  simp only [Mpsc.load, hroom.1, List.length_nil] at hslots
  omega

section Steps

variable {bits : Nat} (hcfg : config.Accepted bits) (hn : n ≤ config.maxMessageSize)
  (hr : Reachable config s)
include hcfg hn hr

/-- **A step of the call itself**: each of the two reservations is granted. -/
theorem inCall_own {a : SendAct} {loc : SendLoc} (h : InCall config s i n)
    (hloc : s.sends[i]? = some loc) (hin : loc.InCall config s n)
    (hst : sendStep config s i loc a = some s') :
    ∃ loc', s'.sends[i]? = some loc' ∧ loc'.InCall config s' n := by
  have hi := (List.getElem?_eq_some_iff.mp hloc).1
  have ha := account_reachable hr
  have hg := (genuine_reachable hr).state
  have hmove : ∀ loc', (s.sends.set i loc')[i]? = some loc' := fun _ => List.getElem?_set_self hi
  cases sendStep_rule hst with
  | invalid size e hv =>
    obtain ⟨rfl, hroom⟩ := hin
    refine ⟨_, hmove _, ?_⟩
    unfold validateOutboundMessage at hv
    cases ho : ensureOpen s.cells.state.value with
    | error e' =>
      rw [ho] at hv
      cases hv
      exact ensureOpen_refuses hg ho
    | ok =>
      simp only [ho, if_neg (Nat.not_lt.mpr hn)] at hv
      cases hv
  | unsupported size _ hu =>
    obtain ⟨rfl, hroom⟩ := hin
    exact absurd hu (Nat.not_lt.mpr (hcfg.size_le_u32 hn))
  | start =>
    obtain ⟨rfl, hroom⟩ := hin
    exact ⟨_, hmove _, rfl, hroom⟩
  | acquire =>
    obtain ⟨rfl, hroom⟩ := hin
    exact ⟨_, hmove _, rfl, hroom⟩
  | exhausted _ hno =>
    obtain ⟨rfl, hroom⟩ := hin
    exact absurd (h.budget ha hloc hroom) hno
  | reserve _ channel hc =>
    obtain ⟨rfl, hroom⟩ := hin
    obtain ⟨-, -, rfl⟩ := Mpsc.tryReserve_ok hc
    exact ⟨_, hmove _, rfl, hroom⟩
  | full _ hc =>
    obtain ⟨rfl, hroom⟩ := hin
    have hfree := h.slot ha hcfg.queue_pos hloc rfl hroom
    exact absurd (Mpsc.tryReserve_full hc) (Nat.ne_of_gt hfree)
  | closed =>
    obtain ⟨rfl, hroom⟩ := hin
    exact ⟨_, hmove _, rfl, hroom⟩
  | refuse =>
    -- the state is closed
    have h3 : 3 ≤ s.cells.state.value.rank := (results_reachable hr).sends _ (List.mem_of_getElem? hloc)
    have hge := terminalError_genuine hg h3
    refine ⟨_, hmove _, ?_, Nat.le_trans (by decide) h3⟩
    rintro m he
    rw [he] at hge
    exact hge
  | giveBack => exact ⟨_, hmove _, hin⟩
  | _ => exact ⟨_, hmove _, trivial⟩

theorem inCall_step (h : InCall config s i n) (hl : l.sparesSends i = true)
    (hst : step config s l = some s') : InCall config s' i n := by
  have he := (lifecycle_step (lifecycle_reachable hr) hst).2
  obtain ⟨loc, hloc, hin⟩ := h.own
  cases hown : l.ofSend i with
  | true =>
    obtain ⟨a, rfl, hst'⟩ := step_own hown hloc hst
    refine ⟨fun k x hk hx => ?_, inCall_own hcfg hn hr h hloc hin hst'⟩
    have hk' : Label.ofSend k (.send i a) = false := by simpa [Label.ofSend] using Ne.symm hk
    rcases sendLoc_other hk' hst with heq | ⟨-, m, hs⟩
    · exact h.others k x hk (heq ▸ hx)
    · rw [hs] at hx
      cases hx; trivial
  | false =>
    have hno : ∀ j a, l ≠ .send j a := by
      rintro j a rfl
      rw [show Label.ofSend i (.send j a) = Label.sparesSends i (.send j a) from rfl, hl] at hown
      cases hown
    have hother : ∀ k, l.ofSend k = false := by
      intro k
      cases l with
      | send j a => exact absurd rfl (hno j a)
      | _ => rfl
    refine ⟨fun k x hk hx => ?_, ?_⟩
    · rcases sendLoc_other (hother k) hst with heq | ⟨-, m, hs⟩
      · exact h.others k x hk (heq ▸ hx)
      · rw [hs] at hx
        cases hx; trivial
    · have hroom : Room config s n → Room config s' n := fun hr =>
        room_step (fun j m => hno j _) hr hst
      have hsame : s'.sends[i]? = some loc := by
        rcases sendLoc_other hown hst with heq | ⟨hnone, -⟩
        · exact heq.trans hloc
        · rw [hloc] at hnone; cases hnone
      refine ⟨loc, hsame, ?_⟩
      cases loc with
      | start | acquire | reserve | refuse | admitted => exact ⟨hin.1, hroom hin.2⟩
      | giveBack | refused => exact ⟨hin.1, Nat.le_trans hin.2 he.rank_le⟩
      | _ => trivial

theorem inCall_run {ls : List Label} (h : InCall config s i n)
    (hp : Lts.Path (step config) (fun _ l => l.sparesSends i = true) s ls s') :
    Reachable config s' ∧ InCall config s' i n := by
  refine hp.invariant (P := fun s => Reachable config s ∧ InCall config s i n) ?_ ⟨hr, h⟩
  rintro s l t ⟨hr, h⟩ hl hst
  exact ⟨hr.next hst, inCall_step hcfg hn hr h hl hst⟩

end Steps

/-! ## The result -/

theorem Settled.validated (hs : Settled config s i n) :
    validateOutboundMessage config s.cells.state.value n = .ok () :=
  validate_ok_iff.mpr ⟨hs.opened, hs.size_le⟩

/-- On an open connection, two reservations stand between the call and its admission. -/
theorem grants_of_inCall {bits : Nat} (hcfg : config.Accepted bits) (hr : Reachable config s)
    (hs : Settled config s i n) (h : InCall config s i n) : Grants config s i n := by
  have hi := (List.getElem?_eq_some_iff.mp hs.call).1
  -- the state is open, so what is not refused is granted
  have htrack : ∀ u, Reachable config u → InCall config u i n → u.cells.state.value = .opened →
      ∃ loc, u.sends[i]? = some loc ∧ loc.Granting n := by
    intro u hu hin ho
    obtain ⟨loc, hloc, hin⟩ := hin.own
    refine ⟨loc, hloc, ?_⟩
    cases loc with
    | start | acquire | reserve | admitted => exact hin.1
    | refuse =>
      have h3 : 3 ≤ u.cells.state.value.rank :=
        (results_reachable hu).sends _ (List.mem_of_getElem? hloc)
      rw [ho] at h3
      exact absurd h3 (by decide)
    | giveBack | refused =>
      have h1 := hin.2
      rw [ho] at h1
      exact absurd h1 (by decide)
    | _ => trivial
  constructor
  · have ha := account_reachable hr
    obtain ⟨loc, hloc, hin⟩ := h.own
    obtain rfl : loc = .start n := by simpa [hs.call] using hloc.symm
    have hb : n ≤ s.outbound.budget := h.budget ha hloc hin.2
    have hfree := h.slot ha hcfg.queue_pos hloc rfl hin.2
    have hcl := (results_reachable hr).channel_open hs.opened
    have hres : s.outbound.channel.tryReserve =
        .ok { s.outbound.channel with free := s.outbound.channel.free - 1 } := by
      simp [Mpsc.tryReserve, hcl, Nat.ne_of_gt hfree]
    exact ⟨_, granted_run hs.call hs.validated (hcfg.size_le_u32 hs.size_le) hb hres, sendWith_get hi _ _⟩
  · intro ls u hp ho
    obtain ⟨hu, hin⟩ := inCall_run hcfg hs.size_le hr h hp
    exact htrack u hu hin ho
  · intro ls u why e hp hu
    obtain ⟨-, hin⟩ := inCall_run hcfg hs.size_le hr h hp
    obtain ⟨loc, hloc, hin⟩ := hin.own
    rw [hu] at hloc
    cases hloc
    exact hin.1

theorem Settled.inCall (hr : Reachable config s) (hs : Settled config s i n)
    (hroom : ∀ c, s.writer.loc = .release c → c.permit + n ≤ config.maxBufferedBytes)
    {bits : Nat} (hcfg : config.Accepted bits) : InCall config s i n := by
  have hle := hcfg.message_le
  have hsize := hs.size_le
  refine ⟨fun j loc _ hj => hs.others j loc hj, _, hs.call, rfl, ?_, ?_⟩
  · rcases hs.held hr with hh | ⟨c, hloc, hh⟩
    · exact (List.append_eq_nil_iff.mp hh).2
    · simpa [St.held, hloc, WriterLoc.inFlight] using hh
  · rcases hs.held hr with hh | ⟨c, hloc, hh⟩
    · rw [hh, Pool.weigh_nil]; omega
    · have hc := hroom c hloc
      rw [hh, Pool.weigh_cons, Pool.weigh_nil]; omega

/-- **The call is refused** if the permit of the answered command is missing for it. -/
theorem not_grants {bits : Nat} (hcfg : config.Accepted bits) (hr : Reachable config s)
    (hs : Settled config s i n) {c : OutboundCommand} (hloc : s.writer.loc = .release c)
    (hbig : config.maxBufferedBytes < c.permit + n) : ¬Grants config s i n := by
  intro hg
  have hi := (List.getElem?_eq_some_iff.mp hs.call).1
  have hspare : Label.sparesSends i (.send i .next) = true := by simp [Label.sparesSends]
  have hbytes := (account_reachable hr).bytes
  have hpermit : c.permit ≤ Pool.weigh OutboundCommand.permit s.held :=
    Pool.weigh_le_of_mem (f := OutboundCommand.permit)
      (List.mem_append_left _ (by simp [hloc, WriterLoc.inFlight]))
  have hb : ¬n ≤ s.outbound.budget := by omega
  have hpath : Lts.Path (step config) (fun _ l => l.sparesSends i = true) s
      [.send i .next, .send i .next] _ :=
    .cons hspare (start_next hs.call hs.validated (hcfg.size_le_u32 hs.size_le))
      (.single hspare (exhausted_next hi hb))
  exact hg.refused _ _ .bytesExhausted bytesExhausted hpath (List.getElem?_set_self hi) _ rfl

/-- **A send that has returned has given its budget back exactly if no call finds the writer between
the answer and the drop of a permit it would need.** -/
theorem returned_budget_iff (bits q m b : Nat) (timeout : Option Nat) (config : ConnectionConfig)
    (hnew : ConnectionConfig.new bits q m b timeout = .ok config) (ls : List Label) (s : St)
    (h : Lts.run (step config) (start config) ls = some s) :
    (∀ as t i n, as ++ [.send i .next] <+: ls → Lts.run (step config) (start config) as = some t →
        Settled config t i n → Grants config t i n) ↔
      Lts.Path (step config) (RoomLeft config) (start config) ls s := by
  have hcfg := (ConnectionConfig.new_ok_iff.mp hnew).1
  constructor
  · intro hall
    refine Lts.path_of_initial h fun as l t t' hp hr hst => ?_
    rintro i n rfl hs c hloc
    by_contra hbig
    exact not_grants hcfg ⟨as, hr⟩ hs hloc (by omega) (hall as t i n hp hr hs)
  · intro hpath as t i n hp hr hs
    have hroom : RoomLeft config t (.send i .next) := by
      obtain ⟨bs, rfl⟩ := hp
      rw [List.append_assoc, List.singleton_append] at hpath
      exact hpath.ok_at hr
    exact grants_of_inCall hcfg ⟨as, hr⟩ hs (hs.inCall ⟨as, hr⟩ (hroom i n rfl hs) hcfg)

/-- A message of four bytes is sent and awaited; the sender runs on while the writer stands between the
answer and the end of the match arm, and calls again. -/
def answeredEarlyRun : List Label :=
  [.callAdmit 4, .send 0 .next, .send 0 .next, .send 0 .next, .send 0 (.handOver (.binary [1, 2, 3, 4])),
    .writer .next, .writer .next, .writer .outbound, .writer .next, .writer .sinkOk, .writer .next,
    .send 0 .next, .callAdmit 4]

theorem returned_send_refused :
    Reachable .tiny (Lts.after (step .tiny) (start .tiny) answeredEarlyRun) ∧
      Settled .tiny (Lts.after (step .tiny) (start .tiny) answeredEarlyRun) 1 4 ∧
      ¬Grants .tiny (Lts.after (step .tiny) (start .tiny) answeredEarlyRun) 1 4 ∧
      (Lts.after (step .tiny) (start .tiny)
        (answeredEarlyRun ++ [.send 1 .next, .send 1 .next])).sends[1]? =
          some (.refused .bytesExhausted bytesExhausted) := by
  have hr : Reachable .tiny (Lts.after (step .tiny) (start .tiny) answeredEarlyRun) :=
    Lts.reachable_after rfl
  have hs : Settled .tiny (Lts.after (step .tiny) (start .tiny) answeredEarlyRun) 1 4 := by
    refine ⟨rfl, rfl, by decide, fun j loc hj => ?_⟩
    rcases j with _ | _ | j
    · cases hj; trivial
    · cases hj; trivial
    · cases hj
  have hcfg : ConnectionConfig.Accepted 32 .tiny :=
    (ConnectionConfig.new_ok_iff.mp (rfl : ConnectionConfig.new 32 1 4 4 (some 1) = .ok .tiny)).1
  exact ⟨hr, hs, not_grants hcfg hr hs (c := ⟨0, .binary [1, 2, 3, 4], 4⟩) rfl (by decide), rfl⟩

/-- The same send and the same call, with the permit dropped in between. -/
def releasedInTimeRun : List Label :=
  [.callAdmit 4, .send 0 .next, .send 0 .next, .send 0 .next, .send 0 (.handOver (.binary [1, 2, 3, 4])),
    .writer .next, .writer .next, .writer .outbound, .writer .next, .writer .sinkOk, .writer .next,
    .send 0 .next, .writer .next, .callAdmit 4, .send 1 .next, .send 1 .next, .send 1 .next]

theorem returned_budget_iff_releasedInTime :
    (∀ as t i n, as ++ [.send i .next] <+: releasedInTimeRun →
        Lts.run (step .tiny) (start .tiny) as = some t →
        Settled .tiny t i n → Grants .tiny t i n) ↔
      Lts.Path (step .tiny) (RoomLeft .tiny) (start .tiny) releasedInTimeRun
        (Lts.after (step .tiny) (start .tiny) releasedInTimeRun) :=
  returned_budget_iff 32 1 4 4 (some 1) .tiny rfl releasedInTimeRun _ (Lts.run_after rfl)

end FogWS
