import FogWS.Detach
import FogWS.Results
/-!
# Outbound delivery

The writer passes commands to the sink in the order in which `send_admitted` handed them over, one at
a time. Once the writer has acted on a shutdown signal, or a sink operation has failed, it is *sealed*: it
passes no application message any more.
-/
namespace FogWS

variable {config : ConnectionConfig} {s s' : St} {l : Label}

/-! ## A sealed writer -/

/-- **A sealed writer passes nothing more.** -/
theorem writerStep_sealed {loc : WriterLoc} {a : WriterAct} (hloc : loc.isSealed = true)
    (h : writerStep s loc a = some s') : s'.writer.loc.isSealed = true ∧
      s'.hist.passed = s.hist.passed ∧ s'.hist.closeFrames = s.hist.closeFrames := by
  cases writerStep_move h with
  | refuse | gone => exact ⟨rfl, rfl, rfl⟩
  | quiet _ _ hhist _ _ _ _ _ _ _ hsealed _ => rw [hhist]; exact ⟨hsealed hloc, rfl, rfl⟩
  | _ => cases hloc

theorem sealed_step (hw : s.writer.loc.isSealed = true) (hst : step config s l = some s') :
    s'.writer.loc.isSealed = true ∧ s'.hist.passed = s.hist.passed ∧
      s'.hist.closeFrames = s.hist.closeFrames := by
  cases step_move hst with
  | writer _ hst => exact writerStep_sealed hw hst
  | reader f => rw [f.writer]; exact ⟨hw, f.passed, f.closeFrames⟩
  | control f | send f | receive f => rw [f.writer, f.hist]; exact ⟨hw, rfl, rfl⟩
  | _ => exact ⟨hw, rfl, rfl⟩

theorem sealed_run {ls : List Label} (hw : s.writer.loc.isSealed = true)
    (h : Lts.run (step config) s ls = some s') :
    s'.hist.passed = s.hist.passed ∧ s'.hist.closeFrames = s.hist.closeFrames := by
  refine (Lts.path_of_run h).relation (P := fun s => s.writer.loc.isSealed = true)
    (R := fun s s' => s'.hist.passed = s.hist.passed ∧ s'.hist.closeFrames = s.hist.closeFrames)
    (fun _ => ⟨rfl, rfl⟩) ?_ (fun s l t hs _ hst => sealed_step hs hst) hw
  rintro a b c ⟨h1, h2⟩ ⟨h1', h2'⟩
  exact ⟨h1'.trans h1, h2'.trans h2⟩

/-! ## The invariant -/

structure Discipline (s : St) : Prop where
  /-- While the writer runs, what was handed over has been passed, is about to be, or is queued. -/
  order : s.writer.loc.isDone = false →
    s.hist.handed = s.hist.passed ++ s.writer.loc.upcoming ++ s.outbound.channel.queue
  passed : s.hist.passed <+: s.hist.handed
  /-- At most the last sink send has not succeeded. -/
  last : s.hist.passed = s.hist.succeeded ++ s.writer.loc.unfinished ∨
    s.writer.loc.isDone = true ∧ ∃ c, s.hist.passed = s.hist.succeeded ++ [c]
  closed : s.outbound.channel.closed = true → s.writer.loc.isDone = true
  /-- A send hands over one command. -/
  handed : ∀ c ∈ s.hist.handed, s.sent c.id
  nodup : (s.hist.handed.map (·.id)).Nodup
  /-- Success is answered, and returned, only after the sink send. -/
  writing : ∀ c, s.writer.loc = .answer c → c ∈ s.hist.succeeded
  answered : ∀ i, s.outbound.responses i = .answered (.ok ()) → ∃ c ∈ s.hist.succeeded, c.id = i
  returned : ∀ i, s.sends[i]? = some (.returned (.ok ())) → ∃ c ∈ s.hist.succeeded, c.id = i
  frames : s.hist.closeFrames = 0 ∨ s.hist.closeFrames = 1 ∧ s.writer.loc.isSealed = true ∧
    s.cells.shutdown.Held .localClose

theorem discipline_start (config : ConnectionConfig) : Discipline (start config) where
  order := fun _ => rfl
  passed := List.prefix_rfl
  last := .inl rfl
  closed := nofun
  handed := nofun
  nodup := .nil
  writing := nofun
  answered := nofun
  returned := nofun
  frames := .inl rfl

/-- The writer has at most one unfinished sink send. -/
theorem WriterLoc.unfinished_cases (loc : WriterLoc) :
    loc.unfinished = [] ∨ ∃ c, loc.unfinished = [c] := by
  cases loc with
  | send c | failAnswer _ c => exact .inr ⟨c, rfl⟩
  | fail _ c | failSignal _ c | leave c =>
    cases c with
    | none => exact .inl rfl
    | some c => exact .inr ⟨c, rfl⟩
  | _ => exact .inl rfl

/-- A step of a process that neither sends nor writes. -/
theorem Discipline.of_eq (h : Discipline s) (he : s.cells.Evolves s'.cells) (hw : s'.writer = s.writer)
    (hs : s'.sends = s.sends) (ho : s'.outbound = s.outbound) (hha : s'.hist.handed = s.hist.handed)
    (hp : s'.hist.passed = s.hist.passed) (hsu : s'.hist.succeeded = s.hist.succeeded)
    (hc : s'.hist.closeFrames = s.hist.closeFrames) : Discipline s' := by
  constructor
  · rw [hha, hp, hw, ho]; exact h.order
  · rw [hha, hp]; exact h.passed
  · rw [hp, hsu, hw]; exact h.last
  · rw [ho, hw]; exact h.closed
  · rw [hha]; intro c hc; have := h.handed c hc; rwa [St.sent, hs]
  · rw [hha]; exact h.nodup
  · rw [hw, hsu]; exact h.writing
  · rw [ho, hsu]; exact h.answered
  · rw [hs, hsu]; exact h.returned
  · rw [hc, hw]; exact h.frames.imp_right fun ⟨h1, h2, h3⟩ => ⟨h1, h2, he.shutdown.held h3⟩

/-- Answering a command whose sink send has succeeded, or answering with an error. -/
theorem Discipline.respond (h : Discipline s) (c : OutboundCommand) {r : Except DriverError Unit}
    (hr : r = .ok () → c ∈ s.hist.succeeded) (i : Nat)
    (hi : (s.outbound.respond c.id (.answered r)).responses i = .answered (.ok ())) :
    ∃ c ∈ s.hist.succeeded, c.id = i := by
  by_cases hic : i = c.id
  · subst hic
    simp only [Outbound.respond, Function.update_self, Response.answered.injEq] at hi
    exact ⟨c, hr hi, rfl⟩
  · simp only [Outbound.respond, Function.update_of_ne hic] at hi
    exact h.answered i hi

/-! ## The moves of the writer -/

namespace Discipline

variable {loc : WriterLoc} {c : OutboundCommand}

/-- While the writer runs, the channel is open, and the sink send that has not succeeded is the one the
writer is at. -/
theorem running (h : Discipline s) (hloc : s.writer.loc = loc) (hd : loc.isDone = false) :
    s.hist.handed = s.hist.passed ++ loc.upcoming ++ s.outbound.channel.queue ∧
      s.hist.passed = s.hist.succeeded ++ loc.unfinished ∧ ¬s.outbound.channel.closed = true := by
  subst hloc
  refine ⟨h.order hd, h.last.resolve_right fun hx => ?_, fun hc => ?_⟩
  · rw [hx.1] at hd; cases hd
  · rw [h.closed hc] at hd; cases hd

/-- Before the seal, no Close frame has been passed. -/
theorem no_frame (h : Discipline s) (hloc : s.writer.loc = loc) (hs : loc.isSealed = false) :
    s.hist.closeFrames = 0 :=
  h.frames.resolve_right fun hx => by rw [← hloc, hx.2.1] at hs; cases hs

theorem take {channel : Mpsc OutboundCommand} (h : Discipline s) (hloc : s.writer.loc = .events)
    (hq : s.outbound.channel.queue = c :: channel.queue)
    (hcl : channel.closed = s.outbound.channel.closed) :
    Discipline { s.writerAt (.sendStart c) with outbound.channel := channel } := by
  obtain ⟨horder, hlast, hopen⟩ := h.running hloc rfl
  rw [hq] at horder
  refine { h with
    order := fun _ => ?_
    last := .inl hlast
    closed := fun hx => absurd (hcl ▸ hx) hopen
    writing := by rintro _ ⟨⟩
    frames := .inl (h.no_frame hloc rfl) }
  simpa [WriterLoc.upcoming, St.writerAt] using horder

theorem pass (h : Discipline s) (hloc : s.writer.loc = .sendStart c) :
    Discipline { s.writerAt (.send c) with hist.passed := s.hist.passed ++ [c] } := by
  obtain ⟨horder, hlast, hopen⟩ := h.running hloc rfl
  refine { h with
    order := fun _ => ?_
    passed := ⟨s.outbound.channel.queue, horder.symm⟩
    last := .inl ?_
    closed := fun hx => absurd hx hopen
    writing := by rintro _ ⟨⟩
    frames := .inl (h.no_frame hloc rfl) }
  · simpa [WriterLoc.upcoming, St.writerAt] using horder
  · simp only [WriterLoc.unfinished, List.append_nil] at hlast ⊢
    exact congrArg (· ++ [c]) hlast

theorem succeed (h : Discipline s) (hloc : s.writer.loc = .send c) :
    Discipline { s.writerAt (.answer c) with hist.succeeded := s.hist.succeeded ++ [c] } := by
  obtain ⟨horder, hlast, hopen⟩ := h.running hloc rfl
  have hmono : ∀ i, (∃ x ∈ s.hist.succeeded, x.id = i) → ∃ x ∈ s.hist.succeeded ++ [c], x.id = i := by
    rintro i ⟨x, hx, hid⟩
    exact ⟨x, List.mem_append_left _ hx, hid⟩
  refine { h with
    order := fun _ => horder
    last := .inl ?_
    closed := fun hx => absurd hx hopen
    writing := fun x hx => ?_
    answered := fun i hi => hmono i (h.answered i hi)
    returned := fun i hi => hmono i (h.returned i hi)
    frames := .inl (h.no_frame hloc rfl) }
  · simpa [WriterLoc.unfinished, St.writerAt] using hlast
  · cases hx; exact List.mem_append_right _ List.mem_cons_self

theorem answer (h : Discipline s) (hloc : s.writer.loc = .answer c) :
    Discipline { s.writerAt (.release c) with outbound := s.outbound.respond c.id (.answered (.ok ())) } := by
  obtain ⟨horder, hlast, hopen⟩ := h.running hloc rfl
  exact { h with
    order := fun _ => horder
    last := .inl hlast
    closed := fun hx => absurd hx hopen
    writing := by rintro _ ⟨⟩
    answered := h.respond c fun _ => h.writing c hloc
    frames := .inl (h.no_frame hloc rfl) }

theorem release (h : Discipline s) (hloc : s.writer.loc = .release c) :
    Discipline { s.writerAt .select with outbound.budget := s.outbound.budget + c.permit } := by
  obtain ⟨horder, hlast, hopen⟩ := h.running hloc rfl
  exact { h with
    order := fun _ => horder
    last := .inl hlast
    closed := fun hx => absurd hx hopen
    writing := by rintro _ ⟨⟩
    frames := .inl (h.no_frame hloc rfl) }

theorem refuse {terminal : DriverError} (h : Discipline s) (hloc : s.writer.loc = .failAnswer terminal c) :
    Discipline { s.writerAt (.leave (some c)) with
      outbound := s.outbound.respond c.id (.answered (.error terminal)) } := by
  obtain ⟨horder, hlast, hopen⟩ := h.running hloc rfl
  exact { h with
    order := fun _ => horder
    last := .inl hlast
    closed := fun hx => absurd hx hopen
    writing := by rintro _ ⟨⟩
    answered := h.respond c (by rintro ⟨⟩)
    frames := h.frames.imp_right fun hx => ⟨hx.1, rfl, hx.2.2⟩ }

/-- The one Close frame: had there been one before, the writer would be sealed. -/
theorem frame (h : Discipline s) (hloc : s.writer.loc = .onShutdown)
    (hsignal : s.cells.shutdown.value = .localClose) :
    Discipline { s.writerAt .closeSend with hist.closeFrames := s.hist.closeFrames + 1 } := by
  obtain ⟨horder, hlast, hopen⟩ := h.running hloc rfl
  have hnone := h.no_frame hloc rfl
  exact { h with
    order := fun _ => horder
    last := .inl hlast
    closed := fun hx => absurd hx hopen
    writing := by rintro _ ⟨⟩
    frames := .inr ⟨by simp [hnone], rfl, hsignal ▸ s.cells.shutdown.held_value⟩ }

/-- The end of the task, and of whatever it has in its hands. -/
theorem gone (h : Discipline s) : Discipline (dropWriter s) := by
  refine { h with
    order := by rintro ⟨⟩
    last := ?_
    closed := fun _ => rfl
    writing := by rintro _ ⟨⟩
    answered := fun i hi => h.answered i ?_
    frames := h.frames.imp_right fun hx => ⟨hx.1, rfl, hx.2.2⟩ }
  · rcases h.last with hp | ⟨-, hp⟩
    · rcases s.writer.loc.unfinished_cases with hu | ⟨c, hu⟩
      · exact .inl (by rw [hu] at hp; exact hp)
      · exact .inr ⟨rfl, c, by rw [hu] at hp; exact hp⟩
    · exact .inr ⟨rfl, hp⟩
  · rcases Outbound.discard_cases s.outbound (s.writer.loc.inFlight.toList ++ s.outbound.channel.queue) i
      with hdr | hdr
    · exact hdr ▸ hi
    · cases hdr.symm.trans hi

end Discipline

/-! ## Steps and runs -/

theorem discipline_writer {a : WriterAct} (h : Discipline s) (he : s.cells.Evolves s'.cells)
    (hst : writerStep s s.writer.loc a = some s') : Discipline s' := by
  have f := writerStep_frame hst
  have m := writerStep_move hst
  generalize hloc : s.writer.loc = loc at m
  cases m with
  | take c channel hq hcl _ => exact h.take hloc hq hcl
  | pass c => exact h.pass hloc
  | succeed c => exact h.succeed hloc
  | answer c => exact h.answer hloc
  | release c => exact h.release hloc
  | refuse terminal c => exact h.refuse hloc
  | frame hsignal => exact h.frame hloc hsignal
  | gone loc => exact h.gone
  | quiet loc s' hhist hout _ hup hun hanswer _ hdone hsealed _ =>
    subst hloc
    refine ⟨?_, ?_, ?_, ?_, ?_, ?_, fun c hc => absurd hc (hanswer c), ?_, ?_, ?_⟩
    · rw [hhist, hout, hup, hdone]; exact h.order
    · rw [hhist]; exact h.passed
    · rw [hhist, hun, hdone]; exact h.last
    · rw [hout, hdone]; exact h.closed
    · rw [hhist]; intro c hc; have := h.handed c hc; rwa [St.sent, f.sends]
    · rw [hhist]; exact h.nodup
    · rw [hout, hhist]; exact h.answered
    · rw [f.sends, hhist]; exact h.returned
    · rw [hhist]
      exact h.frames.imp_right fun hx => ⟨hx.1, hsealed hx.2.1, he.shutdown.held hx.2.2⟩

theorem discipline_send {i : Nat} {a : SendAct} (h : Discipline s)
    (hst : step config s (.send i a) = some s') : Discipline s' := by
  have hkeep : ∀ {j : Nat}, s.sent j → s'.sent j := fun hj => (step_detached hj hst).1
  obtain ⟨loc, hloc, hst⟩ := Option.bind_eq_some_iff.mp hst
  have hi := (List.getElem?_eq_some_iff.mp hloc).1
  rcases sendStep_move hst with ⟨m, rfl, rfl, rfl⟩ | ⟨loc', hset, q⟩
  · -- the command goes to the end of the queue
    have hnew : (handOver s i m).sent i := ⟨.response, by simp [handOver, St.sendAt, hi], trivial⟩
    refine ⟨fun hd => ?_, h.passed.trans (List.prefix_append _ _), h.last, h.closed, fun c hc => ?_, ?_,
      h.writing, fun j hj => ?_, fun j hj => ?_, h.frames⟩
    · simp only [handOver, Mpsc.push, St.sendAt]
      rw [h.order hd, List.append_assoc (_ ++ _)]
    · rcases List.mem_append.mp hc with hc | hc
      · exact hkeep (h.handed c hc)
      · rw [List.mem_singleton.mp hc]; exact hnew
    · simp only [handOver, List.map_append, List.map_cons, List.map_nil]
      refine List.nodup_append.mpr ⟨h.nodup, by simp, fun x hx y hy => ?_⟩
      rintro rfl
      -- an admission has not handed anything over
      obtain ⟨c, hc, rfl⟩ := List.mem_map.mp hx
      obtain ⟨loc, hl, hsent⟩ := h.handed c hc
      rw [List.mem_singleton.mp hy, hloc] at hl
      cases hl; cases hsent
    · by_cases hji : j = i
      · subst hji
        simp [handOver, Outbound.respond] at hj
      · simp only [handOver, Outbound.respond, Function.update_of_ne hji] at hj
        exact h.answered j hj
    · simp only [handOver, St.sendAt] at hj
      by_cases hji : i = j
      · subst hji
        simp [hi] at hj
      · rw [List.getElem?_set_ne hji] at hj
        exact h.returned j hj
  · have f := sendStep_frame hst
    have hp : s'.hist.passed = s.hist.passed := by rw [f.hist]
    have hsu : s'.hist.succeeded = s.hist.succeeded := by rw [f.hist]
    have hcl : s'.hist.closeFrames = s.hist.closeFrames := by rw [f.hist]
    constructor
    · rw [q.handed, hp, f.writer, q.queue]; exact h.order
    · rw [q.handed, hp]; exact h.passed
    · rw [hp, hsu, f.writer]; exact h.last
    · rw [q.closed, f.writer]; exact h.closed
    · rw [q.handed]; exact fun c hc => hkeep (h.handed c hc)
    · rw [q.handed]; exact h.nodup
    · rw [f.writer, hsu]; exact h.writing
    · rw [q.responses, hsu]; exact h.answered
    · intro j hj
      rw [hset] at hj
      rw [hsu]
      by_cases hji : i = j
      · subst hji
        rw [List.getElem?_set_self hi, Option.some.injEq] at hj
        exact h.answered i (q.ok hj)
      · rw [List.getElem?_set_ne hji] at hj
        exact h.returned j hj
    · rw [hcl, f.writer, f.cells]; exact h.frames

theorem discipline_step (hl : Lifecycle s) (h : Discipline s) (hst : step config s l = some s') :
    Discipline s' := by
  have he := (lifecycle_step hl hst).2
  cases step_move hst with
  | reader f => exact h.of_eq he f.writer f.sends f.outbound f.handed f.passed f.succeeded f.closeFrames
  | writer _ hst => exact discipline_writer h he hst
  | control f | receive f => refine h.of_eq he f.writer f.sends f.outbound ?_ ?_ ?_ ?_ <;> rw [f.hist]
  | send => exact discipline_send h hst
  | callAdmit =>
    refine { h with
      handed := fun c hc => (step_detached (h.handed c hc) hst).1
      returned := fun j hj => ?_ }
    rcases Nat.lt_or_ge j s.sends.length with hlt | hge
    · exact h.returned j (List.getElem?_append_left hlt ▸ hj)
    · rw [List.getElem?_append_right hge] at hj
      cases List.mem_singleton.mp (List.mem_of_getElem? hj)
  | callReceive | dropDriver => exact h.of_eq he rfl rfl rfl rfl rfl rfl rfl
  | dropFields =>
    cases hcl : s.outbound.channel.closed with
    | false =>
      refine h.of_eq he rfl rfl ?_ rfl rfl rfl rfl
      simp only [dropFields, hcl]; rfl
    | true =>
      -- the writer has ended
      have hd := h.closed hcl
      simp only [dropFields, hcl, if_true]
      refine { h with order := fun hx => ?_, closed := fun _ => hd, answered := fun i hi => ?_ }
      · rw [hd] at hx; cases hx
      · rcases Outbound.discard_cases s.outbound s.outbound.channel.queue i with hr | hr
        · exact h.answered i (hr ▸ hi)
        · cases hr.symm.trans hi

theorem discipline_reachable (h : Reachable config s) : Discipline s :=
  (h.invariant (P := fun s => Lifecycle s ∧ Discipline s) ⟨lifecycle_start config, discipline_start config⟩
    fun _ _ _ hP hst => ⟨(lifecycle_step hP.1 hst).1, discipline_step hP.1 hP.2 hst⟩).2

/-! ## Hand-over -/

/-- Commands are handed over by `send_admitted` alone. -/
theorem step_handed (hst : step config s l = some s') : s'.hist.handed = s.hist.handed ∨
    ∃ i m, l = .send i (.handOver m) ∧ s.sends[i]? = some (.admitted m.len) ∧ s' = handOver s i m := by
  cases step_move hst with
  | reader f | writer f => exact .inl f.handed
  | control f | receive f => exact .inl (by rw [f.hist])
  | send _ hloc hst =>
    rcases sendStep_move hst with ⟨m, rfl, rfl, rfl⟩ | ⟨loc', -, q⟩
    · exact .inr ⟨_, m, rfl, hloc, rfl⟩
    · exact .inl q.handed
  | _ => exact .inl rfl

/-- A send dropped with its admission never hands anything over. -/
theorem dropped_never_handed {i : Nat} {ls : List Label} (hloc : s.sends[i]? = some .dropped)
    (hno : ∀ c ∈ s.hist.handed, c.id ≠ i) (h : Lts.run (step config) s ls = some s') :
    ∀ c ∈ s'.hist.handed, c.id ≠ i := by
  refine ((Lts.path_of_run h).invariant
    (P := fun s => s.sends[i]? = some .dropped ∧ ∀ c ∈ s.hist.handed, c.id ≠ i) ?_ ⟨hloc, hno⟩).2
  rintro s l t ⟨hloc, hno⟩ - hst
  have hother : l.ofSend i = false := by
    cases hl : l.ofSend i with
    | false => rfl
    | true =>
      obtain ⟨a, -, hstep⟩ := step_own hl hloc hst
      rw [sendStep_over rfl] at hstep
      cases hstep
  constructor
  · rcases sendLoc_other hother hst with heq | ⟨hnone, -⟩
    · exact heq.trans hloc
    · rw [hloc] at hnone; cases hnone
  · rcases step_handed hst with heq | ⟨j, m, rfl, -, rfl⟩
    · rw [heq]; exact hno
    · exact Pool.forall_snoc hno (by simpa [Label.ofSend] using hother)

/-! ## The result -/

structure SendDiscipline (config : ConnectionConfig) (s : St) : Prop where
  /-- Messages are passed to the sink in the order of their hand-over, none of them left out. -/
  order : s.hist.passed <+: s.hist.handed
  /-- No send is passed twice. -/
  once : (s.hist.passed.map (·.id)).Nodup
  /-- `Ok` means that the sink send of the call's own message has succeeded. -/
  ok : ∀ i, s.sends[i]? = some (.returned (.ok ())) → ∃ c ∈ s.hist.succeeded, c.id = i
  /-- At most the last sink send has not succeeded. -/
  last : s.hist.passed = s.hist.succeeded ∨ ∃ c, s.hist.passed = s.hist.succeeded ++ [c]
  frames : s.hist.closeFrames ≤ 1
  /-- The Close frame answers the `LocalClose` signal, and nothing is passed after it. -/
  frame : ∀ l s₁, step config s l = some s₁ → s₁.hist.closeFrames ≠ s.hist.closeFrames →
    s.writer.loc = .onShutdown ∧ s.cells.shutdown.value = .localClose ∧ s₁.hist.closeFrames = 1 ∧
      ∀ ls s', Lts.run (step config) s₁ ls = some s' → s'.hist.passed = s.hist.passed
  /-- Nothing is passed once the writer has acted on a signal. -/
  acted : s.writer.loc = .onShutdown → s.cells.shutdown.value ≠ .running → ∀ s₁,
    step config s (.writer .next) = some s₁ →
      ∀ ls s', Lts.run (step config) s₁ ls = some s' → s'.hist.passed = s.hist.passed
  /-- Dropped before hand-over: the reservation is given back and nothing is ever written. -/
  droppedEarly : ∀ i n, s.sends[i]? = some (.admitted n) → ∃ s₁,
    step config s (.send i .drop) = some s₁ ∧ s₁.outbound.budget = s.outbound.budget + n ∧
      s₁.outbound.channel.free = s.outbound.channel.free + 1 ∧
      s₁.outbound.channel.queue = s.outbound.channel.queue ∧ s₁.hist = s.hist ∧
      ∀ ls s', Lts.run (step config) s₁ ls = some s' → ∀ c ∈ s'.hist.passed, c.id ≠ i
  /-- Dropped after hand-over: every run is a run of the connection with the future dropped, up to the
  place of that one send; and conversely, as long as the driver is not dropped. -/
  droppedLate : ∀ i, s.sends[i]? = some .response →
    step config s (.send i .drop) = some (s.sendAt i .dropped) ∧
      (∀ ls s', Lts.run (step config) s ls = some s' →
        Lts.run (step config) (s.sendAt i .dropped) (ls.filter fun l => !l.ofSend i) =
          some (s'.sendAt i .dropped)) ∧
      ∀ ls : List Label, (∀ l ∈ ls, l.ofSend i = false ∧ l ≠ .dropDriver) →
        Lts.run (step config) (s.sendAt i .dropped) ls =
          (Lts.run (step config) s ls).map (·.sendAt i .dropped)

/-- Only the writer passes a Close frame, on the signal it acts on. -/
theorem step_frame (hst : step config s l = some s') (hne : s'.hist.closeFrames ≠ s.hist.closeFrames) :
    s.writer.loc = .onShutdown ∧ s.cells.shutdown.value = .localClose ∧
      s'.writer.loc.isSealed = true ∧ s'.hist.passed = s.hist.passed ∧
      s'.hist.closeFrames = s.hist.closeFrames + 1 := by
  cases step_move hst with
  | writer _ hst =>
    have m := writerStep_move hst
    generalize s.writer.loc = loc at m
    cases m with
    | frame hsignal => exact ⟨rfl, hsignal, rfl, rfl, rfl⟩
    | quiet _ _ hhist => exact absurd (by rw [hhist]) hne
    | _ => exact absurd rfl hne
  | reader f => exact absurd f.closeFrames hne
  | control f | send f | receive f => exact absurd (by rw [f.hist]) hne
  | _ => exact absurd rfl hne

theorem send_discipline (h : Reachable config s) : SendDiscipline config s := by
  have d := discipline_reachable h
  constructor
  · exact d.passed
  · exact d.nodup.sublist (d.passed.sublist.map _)
  · exact d.returned
  · rcases d.last with hp | ⟨-, c, hp⟩
    · rcases s.writer.loc.unfinished_cases with hu | ⟨c, hu⟩
      · exact .inl (by simpa [hu] using hp)
      · exact .inr ⟨c, by rw [hp, hu]⟩
    · exact .inr ⟨c, hp⟩
  · rcases d.frames with hf | ⟨hf, -⟩ <;> omega
  · intro l s₁ hst hne
    obtain ⟨hloc, hsignal, hsealed, hpassed, hframes⟩ := step_frame hst hne
    have hnone := d.frames.resolve_right fun hx => by rw [hloc] at hx; cases hx.2.1
    exact ⟨hloc, hsignal, by omega, fun ls s' hrun => (sealed_run hsealed hrun).1.trans hpassed⟩
  · intro hloc hsignal s₁ hst ls s' hrun
    simp only [step, hloc] at hst
    cases writerStep_rule hst with
    | running hrun' => exact absurd hrun' hsignal
    | aborted | localClose | peerClose => exact (sealed_run rfl hrun).1
  · intro i n hi
    have hdrop : step config s (.send i .drop) = some { s.sendAt i .dropped with
        outbound.budget := s.outbound.budget + n
        outbound.channel := s.outbound.channel.release } := by
      simp only [step, hi, Option.bind_some, sendStep]
    refine ⟨_, hdrop, rfl, rfl, rfl, rfl, fun ls s' hrun c hc => ?_⟩
    have hreach := (h.next hdrop).trans (Lts.path_of_run hrun)
    refine dropped_never_handed ?_ ?_ hrun c ((discipline_reachable hreach).passed.subset hc)
    · exact List.getElem?_set_self (List.getElem?_eq_some_iff.mp hi).1
    · -- an admission has handed nothing over
      rintro c hc rfl
      obtain ⟨loc, hl, hsent⟩ := d.handed c hc
      rw [hi] at hl
      cases hl; cases hsent
  · intro i hi
    exact ⟨by simp only [step, hi, Option.bind_some, sendStep],
      fun ls s' => run_detached ⟨_, hi, trivial⟩, fun ls => run_attached ⟨_, hi, trivial⟩⟩

/-- One message is written and its send answered, while a second one waits in the queue. -/
def oneWrittenRun : List Label :=
  [.callAdmit 1, .send 0 .next, .send 0 .next, .send 0 .next, .send 0 (.handOver (.binary [1])),
    .writer .next, .writer .next, .writer .outbound, .callAdmit 1, .send 1 .next, .send 1 .next,
    .send 1 .next, .send 1 (.handOver (.binary [2])), .writer .next, .writer .sinkOk, .writer .next,
    .writer .next, .send 0 .next]

theorem send_discipline_oneWritten :
    SendDiscipline .tiny (Lts.after (step .tiny) (start .tiny) oneWrittenRun) ∧
      (Lts.after (step .tiny) (start .tiny) oneWrittenRun).hist.passed = [⟨0, .binary [1], 1⟩] :=
  ⟨send_discipline (Lts.reachable_after rfl), rfl⟩

end FogWS
