import FogWS.Lifecycle
/-!
# What the calls answer

Every error a call has returned, or is about to return, is tied to the state it was read from: this
is again monotone in the evolution of the cells, so it only has to be checked where it is read.
-/
namespace FogWS

/-- What a refusal says about the cells. -/
def Refusal.Ok (c : Cells) (error : DriverError) : Refusal → Prop
  | .validation (.closed e) => error = e ∧ c.state.value = .closed e
  | .validation (.peerClosed o) => error = o ∧ c.state.Held (.peerClosed o)
  | .channelClosed => c.state.value = .closed error
  | _ => True

def SendLoc.Ok (c : Cells) : SendLoc → Prop
  | .refuse _ | .terminal => 3 ≤ c.state.value.rank
  | .giveBack _ why error | .refused why error => why.Ok c error
  | .returned (.error e) => c.state.value = .closed e
  | _ => True

def ReceiveLoc.Ok (c : Cells) : ReceiveLoc → Prop
  | .terminal => 3 ≤ c.state.value.rank
  | .finish (.error e) => c.state.value = .closed e
  | .returned (.error e) => e = receiveBusy ∨ c.state.value = .closed e
  | _ => True

def Response.Ok (c : Cells) : Response → Prop
  | .answered (.error e) => c.state.value = .closed e
  | .dropped => 3 ≤ c.state.value.rank
  | _ => True

/-- The oneshots, and the channel whose receiver only the ended writer drops. -/
structure Outbound.Ok (c : Cells) (o : Outbound) : Prop where
  responses : ∀ i, (o.responses i).Ok c
  closed : o.channel.closed = true → 3 ≤ c.state.value.rank

section Mono

variable {c c' : Cells} (h : c.Evolves c')
include h

theorem Refusal.Ok.mono {why : Refusal} {e : DriverError} (hr : why.Ok c e) : why.Ok c' e := by
  cases why with
  | validation observed =>
    cases observed with
    | closed e' => exact ⟨hr.1, h.closed hr.2⟩
    | peerClosed o => exact ⟨hr.1, h.state.held hr.2⟩
    | _ => trivial
  | channelClosed => exact h.closed hr
  | _ => trivial

theorem SendLoc.Ok.mono {l : SendLoc} (hl : l.Ok c) : l.Ok c' := by
  cases l with
  | refuse | terminal => exact Nat.le_trans hl h.rank_le
  | giveBack | refused => exact Refusal.Ok.mono h hl
  | returned r =>
    cases r with
    | error => exact h.closed hl
    | ok => trivial
  | _ => trivial

theorem ReceiveLoc.Ok.mono {l : ReceiveLoc} (hl : l.Ok c) : l.Ok c' := by
  cases l with
  | terminal => exact Nat.le_trans hl h.rank_le
  | finish r =>
    cases r with
    | error => exact h.closed hl
    | ok => trivial
  | returned r =>
    cases r with
    | error => exact hl.imp_right h.closed
    | ok => trivial
  | _ => trivial

theorem Response.Ok.mono {r : Response} (hr : r.Ok c) : r.Ok c' := by
  cases r with
  | answered r =>
    cases r with
    | error => exact h.closed hr
    | ok => trivial
  | dropped => exact Nat.le_trans hr h.rank_le
  | _ => trivial

theorem Outbound.Ok.mono {o : Outbound} (ho : o.Ok c) : o.Ok c' :=
  ⟨fun i => (ho.responses i).mono h, fun hc => Nat.le_trans (ho.closed hc) h.rank_le⟩

end Mono

namespace Outbound

variable {c : Cells} {o : Outbound}

theorem Ok.respond (h : o.Ok c) (i : Nat) {r : Response} (hr : r.Ok c) : (o.respond i r).Ok c := by
  refine ⟨fun j => ?_, h.closed⟩
  by_cases hij : j = i
  · subst hij; simpa [Outbound.respond] using hr
  · simpa [Outbound.respond, hij] using h.responses j

theorem discard_cases (o : Outbound) (cs : List OutboundCommand) (i : Nat) :
    (o.discard cs).responses i = o.responses i ∨ (o.discard cs).responses i = .dropped := by
  simp only [Outbound.discard]
  split
  · rename_i hp
    split
    · exact .inr rfl
    · exact .inl hp.symm
  · exact .inl rfl

theorem Ok.discard (h : o.Ok c) (cs : List OutboundCommand) (h3 : 3 ≤ c.state.value.rank) :
    (o.discard cs).Ok c := by
  refine ⟨fun i => ?_, h.closed⟩
  rcases discard_cases o cs i with he | he
  · rw [he]; exact h.responses i
  · rw [he]; exact h3

/-- Dropping the receiver with everything queued. -/
theorem Ok.dropReceiver (h : o.Ok c) (cs : List OutboundCommand) (h3 : 3 ≤ c.state.value.rank) :
    Outbound.Ok c { o.discard cs with channel := o.channel.dropReceiver } :=
  ⟨(h.discard cs h3).responses, fun _ => h3⟩

end Outbound

/-! ## The steps -/

section Steps

variable {config : ConnectionConfig} {s s' : St}

/-- On a closed state `terminal_error` is the terminal outcome. -/
theorem terminalError_of_rank {v : DriverState} (h : 3 ≤ v.rank) : v = .closed (terminalError v) := by
  obtain ⟨e, rfl⟩ := DriverState.exists_closed h
  rfl

theorem validation_ok {n : Nat} {e : DriverError} (c : Cells)
    (h : validateOutboundMessage config c.state.value n = .error e) :
    (Refusal.validation c.state.value).Ok c e := by
  unfold validateOutboundMessage at h
  cases hs : c.state.value with
  | closed e' => rw [hs] at h; cases h; exact ⟨rfl, hs⟩
  | peerClosed o => rw [hs] at h; cases h; exact ⟨rfl, hs ▸ c.state.held_value⟩
  | _ => trivial

theorem sendStep_results {i : Nat} {loc : SendLoc} {a : SendAct} (hloc : loc.Ok s.cells)
    (ho : s.outbound.Ok s.cells) (h : sendStep config s i loc a = some s') :
    (∃ loc', s'.sends = s.sends.set i loc' ∧ loc'.Ok s.cells) ∧ s'.outbound.Ok s.cells := by
  have hr := ho.responses i
  cases sendStep_rule h with
  | invalid _ _ hv => exact ⟨⟨_, rfl, validation_ok s.cells hv⟩, ho⟩
  | acquire | mismatch | dropAdmitted => exact ⟨⟨_, rfl, trivial⟩, ho.responses, ho.closed⟩
  | reserve _ c hc =>
    obtain ⟨hopen, -, rfl⟩ := Mpsc.tryReserve_ok hc
    exact ⟨⟨_, rfl, trivial⟩, ho.responses, ho.closed⟩
  | closed _ hc => exact ⟨⟨_, rfl, ho.closed (Mpsc.tryReserve_closed hc)⟩, ho⟩
  | refuse | terminal => exact ⟨⟨_, rfl, terminalError_of_rank hloc⟩, ho⟩
  | giveBack => exact ⟨⟨_, rfl, hloc⟩, ho.responses, ho.closed⟩
  | handOver => exact ⟨⟨_, rfl, trivial⟩, (ho.respond i (r := .pending) trivial).responses, ho.closed⟩
  | answered r hres =>
    rw [hres] at hr
    refine ⟨⟨_, rfl, ?_⟩, ho⟩
    cases r with
    | error e => exact hr
    | ok => trivial
  | unanswered hres =>
    rw [hres] at hr
    exact ⟨⟨_, rfl, hr⟩, ho⟩
  | _ => exact ⟨⟨_, rfl, trivial⟩, ho⟩

theorem receiveStep_results {i : Nat} {loc : ReceiveLoc} {a : CallAct} (hloc : loc.Ok s.cells)
    (hr : s.reader.loc.isDone = true → 3 ≤ s.cells.state.value.rank)
    (h : receiveStep s i loc a = some s') :
    ∃ loc', s'.receives = s.receives.set i loc' ∧ loc'.Ok s.cells := by
  cases receiveStep_rule h with
  | busy => exact ⟨_, rfl, .inl rfl⟩
  | ended _ hdone => exact ⟨_, rfl, hr hdone⟩
  | terminal => exact ⟨_, rfl, terminalError_of_rank hloc⟩
  | fail => exact ⟨_, rfl, .inr hloc⟩
  | _ => exact ⟨_, rfl, trivial⟩

theorem writerStep_results {loc : WriterLoc} {a : WriterAct} (hc : s.cells.Coherent)
    (hloc : loc.Ok s.cells s.writer.seen) (ho : s.outbound.Ok s.cells)
    (h : writerStep s loc a = some s') : s'.outbound.Ok s.cells := by
  cases writerStep_rule h with
  | takeCommand command channel hrecv =>
    obtain ⟨-, -, hcl⟩ := Mpsc.recv_some hrecv
    exact ⟨ho.responses, fun h => ho.closed (hcl ▸ h)⟩
  | answer => exact ho.respond _ trivial
  | release => exact ⟨ho.responses, ho.closed⟩
  | failAnswer => exact ho.respond _ hloc.1
  | leave => exact ho.dropReceiver _ hloc
  | kill _ hab => exact ho.dropReceiver _ (hc.aborted (.inr hab))
  | _ => exact ho

end Steps

/-! ## The invariant -/

/-- Every answer given or about to be given agrees with the cells. -/
structure Results (s : St) : Prop where
  sends : ∀ l ∈ s.sends, l.Ok s.cells
  receives : ∀ l ∈ s.receives, l.Ok s.cells
  outbound : s.outbound.Ok s.cells

theorem results_start (config : ConnectionConfig) : Results (start config) where
  sends := List.forall_mem_nil _
  receives := List.forall_mem_nil _
  outbound := ⟨fun _ => trivial, nofun⟩

variable {config : ConnectionConfig} {s s' : St} {l : Label}

/-- An ended reader leaves the state closed. -/
theorem Lifecycle.closed_of_reader (h : Lifecycle s) (hd : s.reader.loc.isDone = true) :
    3 ≤ s.cells.state.value.rank := by
  have hr := h.reader.2
  cases hl : s.reader.loc <;> rw [hl] at hr hd <;> first | exact hr | cases hd

/-- An ended writer leaves the state closed. -/
theorem Lifecycle.closed_of_writer (h : Lifecycle s) (hd : s.writer.loc.isDone = true) :
    3 ≤ s.cells.state.value.rank := by
  have hw := h.writer.2
  cases hl : s.writer.loc <;> rw [hl] at hw hd <;> first | exact hw | cases hd

/-- A step that leaves the calls of `send` and `receive` and the outbound side alone. -/
theorem Results.of_evolves (h : Results s) (he : s.cells.Evolves s'.cells) (hs : s'.sends = s.sends)
    (hr : s'.receives = s.receives) (ho : s'.outbound = s.outbound) : Results s' :=
  ⟨hs ▸ Pool.forall_mono h.sends fun _ => .mono he, hr ▸ Pool.forall_mono h.receives fun _ => .mono he,
    ho ▸ h.outbound.mono he⟩

theorem results_step (hl : Lifecycle s) (h : Results s) (hst : step config s l = some s') :
    Results s' := by
  have he := (lifecycle_step hl hst).2
  cases step_move hst with
  | reader f | control f => exact h.of_evolves he f.sends f.receives f.outbound
  | writer f hst =>
    refine ⟨?_, ?_, (writerStep_results hl.cells hl.writer.2 h.outbound hst).mono he⟩
    · rw [f.sends]; exact Pool.forall_mono h.sends fun _ => .mono he
    · rw [f.receives]; exact Pool.forall_mono h.receives fun _ => .mono he
  | send f hloc hst =>
    obtain ⟨⟨loc', hset, hok⟩, ho⟩ :=
      sendStep_results (h.sends _ (List.mem_of_getElem? hloc)) h.outbound hst
    constructor
    · rw [hset, f.cells]; exact Pool.forall_set h.sends hok
    · rw [f.receives, f.cells]; exact h.receives
    · rw [f.cells]; exact ho
  | receive f hloc hst =>
    obtain ⟨loc', hset, hok⟩ :=
      receiveStep_results (h.receives _ (List.mem_of_getElem? hloc)) hl.closed_of_reader hst
    constructor
    · rw [f.sends, f.cells]; exact h.sends
    · rw [hset, f.cells]; exact Pool.forall_set h.receives hok
    · rw [f.outbound, f.cells]; exact h.outbound
  | callAdmit => exact { h with sends := Pool.forall_snoc h.sends trivial }
  | callReceive => exact { h with receives := Pool.forall_snoc h.receives trivial }
  | dropDriver => exact h.of_evolves he rfl rfl rfl
  | dropFields =>
    refine { h with outbound := ?_ }
    simp only [dropFields]
    split
    · exact h.outbound.dropReceiver _ (h.outbound.closed ‹_›)
    · exact h.outbound

theorem results_reachable (h : Reachable config s) : Results s :=
  (h.invariant (P := fun s => Lifecycle s ∧ Results s)
    ⟨lifecycle_start config, results_start config⟩
    fun _ _ _ hP hst => ⟨(lifecycle_step hP.1 hst).1, results_step hP.1 hP.2 hst⟩).2

/-- The outbound channel of an open connection is open. -/
theorem Results.channel_open (h : Results s) (hopen : s.cells.state.value = .opened) :
    s.outbound.channel.closed = false := by
  by_contra hcl
  have hrank := h.outbound.closed (by simpa using hcl)
  rw [hopen] at hrank
  exact absurd hrank (by decide)

/-! ## After the last handle -/

/-- Once the last handle of the driver is gone, every call is over: each of them held a handle. -/
structure Retired (s : St) : Prop where
  sends : s.driver ≠ .alive → ∀ l ∈ s.sends, l.isOver = true
  receives : s.driver ≠ .alive → ∀ l ∈ s.receives, l.isOver = true

theorem retired_start (config : ConnectionConfig) : Retired (start config) :=
  ⟨fun _ => List.forall_mem_nil _, fun _ => List.forall_mem_nil _⟩

theorem sendStep_over {i : Nat} {loc : SendLoc} {a : SendAct} (hloc : loc.isOver = true) :
    sendStep config s i loc a = none := by
  cases loc <;> first | rfl | cases hloc

theorem receiveStep_over {i : Nat} {loc : ReceiveLoc} {a : CallAct} (hloc : loc.isOver = true) :
    receiveStep s i loc a = none := by
  cases loc <;> first | rfl | cases hloc

theorem Retired.of_frame (h : Retired s) (hd : s'.driver = s.driver) (hs : s'.sends = s.sends)
    (hr : s'.receives = s.receives) : Retired s' :=
  ⟨hd ▸ hs ▸ h.sends, hd ▸ hr ▸ h.receives⟩

theorem retired_step (h : Retired s) (hst : step config s l = some s') : Retired s' := by
  cases step_move hst with
  | reader f | writer f | control f => exact h.of_frame f.driver f.sends f.receives
  | send f hloc hst =>
    refine ⟨fun hd => ?_, fun hd => ?_⟩
    · rw [sendStep_over (h.sends (f.driver ▸ hd) _ (List.mem_of_getElem? hloc))] at hst
      cases hst
    · rw [f.receives]; exact h.receives (f.driver ▸ hd)
  | receive f hloc hst =>
    refine ⟨fun hd => ?_, fun hd => ?_⟩
    · rw [f.sends]; exact h.sends (f.driver ▸ hd)
    · rw [receiveStep_over (h.receives (f.driver ▸ hd) _ (List.mem_of_getElem? hloc))] at hst
      cases hst
  | callAdmit _ hal | callReceive hal => exact ⟨fun hd => absurd hal hd, fun hd => absurd hal hd⟩
  | dropDriver _ hidle =>
    simp only [St.idle, Bool.and_eq_true, List.all_eq_true] at hidle
    exact ⟨fun _ => hidle.1.2, fun _ => hidle.2⟩
  | dropFields hdr =>
    have hne : s.driver ≠ .alive := by rw [hdr]; nofun
    exact ⟨fun _ => h.sends hne, fun _ => h.receives hne⟩

theorem retired_reachable (h : Reachable config s) : Retired s :=
  h.invariant (retired_start config) fun _ _ _ => retired_step

end FogWS
