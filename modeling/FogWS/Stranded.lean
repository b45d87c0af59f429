import FogWS.Sending
/-!
# Sends left without an answer

`send_admitted` hands its command over through a slot reserved earlier (driver.rs:296), whatever has
happened in between. While the writer runs, the command is in its sight (`Awaited`): it will be
answered, or dropped with the writer. A command handed over after the writer has ended stays in the
channel: the waiting future holds the driver, the driver holds a sender, so nobody reads the command
and nobody drops it (`stranded_forever`).
-/
namespace FogWS

/-- The response has been answered, or its sender dropped. -/
def Response.settled : Response → Bool
  | .answered _ | .dropped => true
  | .unsent | .pending => false

/-- Once the writer has ended, no command waits for an answer. -/
def NoneStranded (s : St) : Prop :=
  s.writer.loc.isDone = true → ∀ c ∈ s.hist.handed, (s.outbound.responses c.id).settled = true

/-- The step hands no command over once the writer has ended. -/
def HandsOverInTime (s : St) (l : Label) : Prop :=
  ∀ i m, l = .send i (.handOver m) → s.sends[i]? = some (.admitted m.len) →
    s.writer.loc.isDone = false

variable {config : ConnectionConfig} {s s' : St} {l : Label}

/-! ## Commands in the writer's sight -/

structure Awaited (s : St) : Prop where
  sight : ∀ c ∈ s.hist.handed, (s.outbound.responses c.id).settled = true ∨
    s.outbound.responses c.id = .pending ∧ c ∈ s.held
  released : ∀ c, s.writer.loc = .release c →
    c ∈ s.hist.handed ∧ (s.outbound.responses c.id).settled = true
  ended : s.writer.loc.isDone = true → s.held = []

theorem awaited_start (config : ConnectionConfig) : Awaited (start config) := ⟨nofun, nofun, nofun⟩

theorem Awaited.noneStranded (h : Awaited s) : NoneStranded s := fun hd c hc =>
  (h.sight c hc).resolve_right fun ⟨_, hheld⟩ => by rw [h.ended hd] at hheld; cases hheld

/-- The writer only ever settles responses. -/
theorem WriterMove.settles {loc : WriterLoc} (m : WriterMove s loc s') (i : Nat) :
    s'.outbound.responses i = s.outbound.responses i ∨ (s'.outbound.responses i).settled = true := by
  have hrespond : ∀ (j : Nat) (r : Except DriverError Unit),
      (s.outbound.respond j (.answered r)).responses i = s.outbound.responses i ∨
        ((s.outbound.respond j (.answered r)).responses i).settled = true := by
    intro j r
    by_cases hij : i = j
    · subst hij; exact .inr (by simp [Outbound.respond, Response.settled])
    · exact .inl (by simp [Outbound.respond, hij])
  cases m with
  | answer c => exact hrespond _ _
  | refuse t c => exact hrespond _ _
  | gone =>
    refine (Outbound.discard_cases s.outbound _ i).imp id fun hd => ?_
    exact congrArg Response.settled hd
  | quiet _ _ _ hout => exact .inl (by rw [hout])
  | take | pass | succeed | release | frame => exact .inl rfl

/-- Dropping a command whose response is pending drops the response. -/
theorem Outbound.discard_mem {o : Outbound} {cs : List OutboundCommand} {c : OutboundCommand}
    (hc : c ∈ cs) (hp : o.responses c.id = .pending) : (o.discard cs).responses c.id = .dropped := by
  have hany : cs.any (·.id == c.id) = true := List.any_eq_true.mpr ⟨c, hc, by simp⟩
  simp only [Outbound.discard, hp, hany, if_true]

theorem awaited_writer {a : WriterAct} (hd : Discipline s) (h : Awaited s)
    (hst : writerStep s s.writer.loc a = some s') : Awaited s' := by
  have f := writerStep_frame hst
  have m := writerStep_move hst
  have hsettled : ∀ i, (s.outbound.responses i).settled = true →
      (s'.outbound.responses i).settled = true := by
    intro i hi
    rcases m.settles i with hr | hr
    · rw [hr]; exact hi
    · exact hr
  refine ⟨fun c hc => ?_, fun c hloc => ?_, fun hdone => ?_⟩
  · rw [f.handed] at hc
    rcases h.sight c hc with hs | ⟨hp, hheld⟩
    · exact .inl (hsettled _ hs)
    · rcases (m.held rfl).1 with ⟨hh, -⟩ | ⟨c', hloc, hh, -⟩ | ⟨rfl, -⟩
      · rcases m.settles c.id with hr | hr
        · exact .inr ⟨hr.trans hp, hh ▸ hheld⟩
        · exact .inl hr
      · -- the command that is released has been answered
        rw [hh] at hheld
        rcases List.mem_cons.mp hheld with rfl | hheld
        · have hs := (h.released _ hloc).2
          rw [hp] at hs; cases hs
        · rcases m.settles c.id with hr | hr
          · exact .inr ⟨hr.trans hp, hheld⟩
          · exact .inl hr
      · exact .inl (congrArg Response.settled (Outbound.discard_mem hheld hp))
  · generalize hloc₀ : s.writer.loc = loc at m
    cases m with
    | answer c' =>
      cases hloc
      have hs := hd.writing c hloc₀
      refine ⟨hd.passed.subset ?_, by simp [Outbound.respond, Response.settled]⟩
      rcases hd.last with hp | ⟨-, x, hp⟩ <;> rw [hp] <;> exact List.mem_append_left _ hs
    | quiet _ _ _ _ _ _ _ _ hrelease => exact absurd hloc (hrelease c)
    | _ => cases hloc
  · generalize hloc₀ : s.writer.loc = loc at m
    have hheld := m.held hloc₀
    cases m with
    | gone => rfl
    | quiet loc s' hhist hout hflight _ _ _ _ hd' =>
      have hnil := h.ended (by rw [hloc₀, ← hd']; exact hdone)
      simp only [St.held, hflight, hout, ← hloc₀] at hnil ⊢
      exact hnil
    | _ => cases hdone

/-- A step of a process that neither sends nor writes. -/
theorem Awaited.of_eq (h : Awaited s) (hw : s'.writer = s.writer) (ho : s'.outbound = s.outbound)
    (hh : s'.hist.handed = s.hist.handed) : Awaited s' := by
  have hheld : s'.held = s.held := by simp only [St.held, hw, ho]
  refine ⟨?_, ?_, ?_⟩
  · rw [hh, ho, hheld]; exact h.sight
  · rw [hw, hh, ho]; exact h.released
  · rw [hw, hheld]; exact h.ended

theorem awaited_send {i : Nat} {a : SendAct} (hd : Discipline s) (h : Awaited s)
    (hok : HandsOverInTime s (.send i a)) (hst : step config s (.send i a) = some s') : Awaited s' := by
  obtain ⟨loc, hloc, hst⟩ := Option.bind_eq_some_iff.mp hst
  rcases sendStep_move hst with ⟨m, rfl, rfl, rfl⟩ | ⟨loc', -, q⟩
  · have hlive := hok i m rfl hloc
    have hheld : (handOver s i m).held = s.held ++ [⟨i, m, m.len⟩] := by
      simp [St.held, handOver, Mpsc.push, St.sendAt]
    -- this admission has not handed anything over yet
    have hne : ∀ c ∈ s.hist.handed, c.id ≠ i := by
      rintro c hc rfl
      obtain ⟨loc, hl, hsent⟩ := hd.handed c hc
      rw [hloc] at hl
      cases hl; cases hsent
    have hsame : ∀ c ∈ s.hist.handed,
        (handOver s i m).outbound.responses c.id = s.outbound.responses c.id := fun c hc => by
      simp [handOver, Outbound.respond, hne c hc]
    refine ⟨fun c hc => ?_, fun c hr => ?_, fun hdone => ?_⟩
    · rw [hheld]
      rcases List.mem_append.mp hc with hc | hc
      · rw [hsame c hc]
        exact (h.sight c hc).imp_right fun hx => ⟨hx.1, List.mem_append_left _ hx.2⟩
      · refine .inr ⟨?_, List.mem_append_right _ hc⟩
        rw [List.mem_singleton.mp hc]
        simp [handOver, Outbound.respond]
    · obtain ⟨hc, hs⟩ := h.released c hr
      exact ⟨List.mem_append_left _ hc, hsame c hc ▸ hs⟩
    · cases hlive.symm.trans hdone
  · have f := sendStep_frame hst
    have hheld : s'.held = s.held := by simp only [St.held, f.writer, q.queue]
    refine ⟨?_, ?_, ?_⟩
    · rw [q.handed, q.responses, hheld]; exact h.sight
    · rw [f.writer, q.handed, q.responses]; exact h.released
    · rw [f.writer, hheld]; exact h.ended

theorem awaited_step (hd : Discipline s) (h : Awaited s) (hok : HandsOverInTime s l)
    (hst : step config s l = some s') : Awaited s' := by
  cases step_move hst with
  | reader f => exact h.of_eq f.writer f.outbound f.handed
  | writer _ hst => exact awaited_writer hd h hst
  | control f | receive f => exact h.of_eq f.writer f.outbound (by rw [f.hist])
  | send => exact awaited_send hd h hok hst
  | callAdmit | callReceive | dropDriver => exact h.of_eq rfl rfl rfl
  | dropFields =>
    cases hcl : s.outbound.channel.closed with
    | false => exact h.of_eq rfl (by simp only [dropFields, hcl]; rfl) rfl
    | true =>
      -- the writer has ended, and nothing is left in the channel
      have hdone := hd.closed hcl
      have hnil := h.ended hdone
      simp only [St.held, List.append_eq_nil_iff] at hnil
      simp only [dropFields, hcl, if_true]
      refine ⟨fun c hc => .inl ?_, fun c hr => ?_, fun _ => by simp [St.held, hnil.1, Mpsc.dropReceiver]⟩
      · have hs := h.noneStranded hdone c hc
        rcases Outbound.discard_cases s.outbound s.outbound.channel.queue c.id with hr | hr
        · exact hr ▸ hs
        · exact congrArg Response.settled hr
      · change s.writer.loc = _ at hr
        rw [hr] at hdone; cases hdone

/-! ## The exact condition -/

/-- A command handed over after the end of the writer waits at once. -/
theorem handOver_stranded {i : Nat} {m : Message} (hd : s.writer.loc.isDone = true) :
    ¬NoneStranded (handOver s i m) := fun h => by
  have hs := h hd ⟨i, m, m.len⟩ (List.mem_append_right _ List.mem_cons_self)
  simp [handOver, Outbound.respond, Response.settled] at hs

/-- **No send is ever stranded exactly if every command is handed over before the writer ends.** -/
theorem none_stranded_iff (config : ConnectionConfig) (ls : List Label) (s : St)
    (h : Lts.run (step config) (start config) ls = some s) :
    (∀ as t, as <+: ls → Lts.run (step config) (start config) as = some t → NoneStranded t) ↔
      Lts.Path (step config) HandsOverInTime (start config) ls s := by
  constructor
  · intro hall
    refine Lts.path_of_initial h fun as l t t' hp hr hst => ?_
    rintro i m rfl hloc
    obtain rfl : handOver t i m = t' := by
      simpa [step, hloc, sendStep, handOver] using hst
    cases hdone : t.writer.loc.isDone with
    | false => rfl
    | true =>
      refine absurd (hall _ _ hp ?_) (handOver_stranded (i := i) (m := m) hdone)
      rw [Lts.run_append, hr, Option.bind_some, Lts.run_cons, hst]; rfl
  · intro hpath as t hp hr
    have hpath' := hpath.initial hp hr
    have hinv := hpath'.invariant (P := fun s => Lifecycle s ∧ Discipline s ∧ Awaited s)
      (fun _ _ _ hs hok hst => ⟨(lifecycle_step hs.1 hst).1, discipline_step hs.1 hs.2.1 hst,
        awaited_step hs.2.1 hs.2.2 hok hst⟩)
      ⟨lifecycle_start config, discipline_start config, awaited_start config⟩
    exact hinv.2.2.noneStranded

/-! ## A stranded send waits for ever -/

/-- Send `i` waits for an answer that only an ended writer could give. -/
structure Stranded (s : St) (i : Nat) : Prop where
  writer : s.writer.loc.isDone = true
  waiting : s.sends[i]? = some .response
  pending : s.outbound.responses i = .pending

theorem writerStep_done {loc : WriterLoc} {a : WriterAct} (hd : loc.isDone = true)
    (h : writerStep s loc a = some s') : s'.writer.loc.isDone = true ∧ s'.outbound = s.outbound := by
  cases writerStep_rule h with
  | returned => exact ⟨rfl, rfl⟩
  | kill haw =>
    cases loc with
    | returned | finished => cases haw
    | _ => cases hd
  | _ => cases hd

theorem stranded_step {i : Nat} (hret : Retired s) (h : Stranded s i) (hl : l ≠ .send i .drop)
    (hst : step config s l = some s') : Stranded s' i := by
  have hother : l.ofSend i = false := by
    cases hown : l.ofSend i with
    | false => rfl
    | true =>
      obtain ⟨a, rfl, hstep⟩ := step_own hown h.waiting hst
      cases sendStep_rule hstep with
      | answered _ ha => rw [h.pending] at ha; cases ha
      | unanswered ha => rw [h.pending] at ha; cases ha
      | dropResponse => exact absurd rfl hl
  have hwaiting : s'.sends[i]? = some .response := by
    rcases sendLoc_other hother hst with heq | ⟨hno, -⟩
    · exact heq.trans h.waiting
    · rw [h.waiting] at hno; cases hno
  have hsame : s'.writer = s.writer → s'.outbound = s.outbound → Stranded s' i := fun hw ho =>
    ⟨by rw [hw]; exact h.writer, hwaiting, by rw [ho]; exact h.pending⟩
  cases step_move hst with
  | reader f | control f | receive f => exact hsame f.writer f.outbound
  | writer _ hst =>
    obtain ⟨hd, ho⟩ := writerStep_done h.writer hst
    exact ⟨hd, hwaiting, by rw [ho]; exact h.pending⟩
  | send f _ hst =>
    refine ⟨by rw [f.writer]; exact h.writer, hwaiting, ?_⟩
    rcases sendStep_move hst with ⟨m, -, -, rfl⟩ | ⟨loc', -, q⟩
    · have hji := Ne.symm (by simpa [Label.ofSend] using hother)
      simpa [handOver, Outbound.respond, hji] using h.pending
    · rw [q.responses]; exact h.pending
  | callAdmit | callReceive | dropDriver => exact hsame rfl rfl
  | dropFields hdr =>
    -- the waiting future holds the driver
    cases hret.sends (by rw [hdr]; rintro ⟨⟩) _ (List.mem_of_getElem? h.waiting)

/-- Whatever happens, a stranded send is not answered: it waits until its future is dropped. -/
theorem stranded_forever {i : Nat} {ls : List Label} (hret : Retired s) (h : Stranded s i)
    (hp : Lts.Path (step config) (fun _ l => l ≠ .send i .drop) s ls s') : Stranded s' i :=
  (hp.invariant (P := fun s => Retired s ∧ Stranded s i)
    (fun _ _ _ ⟨hr, hs⟩ hl hst => ⟨retired_step hr hst, stranded_step hr hs hl hst⟩) ⟨hret, h⟩).2

/-- A message is admitted; before `send_admitted` runs, the peer's stream ends without a Close frame,
and the reader's failure path ends the writer. -/
def strandedRun : List Label :=
  [.callAdmit 1, .send 0 .next, .send 0 .next, .send 0 .next, .writer .next, .writer .next,
    .reader .next, .reader .next, .reader (.item (some (.error .reset))), .reader .next, .reader .next,
    .reader .next, .reader .next, .writer .kill, .send 0 (.handOver (.binary [7]))]

theorem send_stranded_streamEnd :
    Reachable .tiny (Lts.after (step .tiny) (start .tiny) strandedRun) ∧
      ¬NoneStranded (Lts.after (step .tiny) (start .tiny) strandedRun) ∧
      (Lts.after (step .tiny) (start .tiny) strandedRun).driver = .alive ∧
      ∀ ls s', Lts.Path (step .tiny) (fun _ l => l ≠ .send 0 .drop)
        (Lts.after (step .tiny) (start .tiny) strandedRun) ls s' → Stranded s' 0 := by
  have hr : Reachable .tiny (Lts.after (step .tiny) (start .tiny) strandedRun) := Lts.reachable_after rfl
  refine ⟨hr, fun h => ?_, rfl, fun ls s' hp => ?_⟩
  · cases h rfl _ List.mem_cons_self
  · exact stranded_forever (retired_reachable hr) ⟨rfl, rfl, rfl⟩ hp

/-- The same end of the stream, with the command handed over before it. -/
def answeredRun : List Label :=
  [.callAdmit 1, .send 0 .next, .send 0 .next, .send 0 .next, .send 0 (.handOver (.binary [7])),
    .writer .next, .writer .next, .reader .next, .reader .next, .reader (.item (some (.error .reset))),
    .reader .next, .reader .next, .reader .next, .reader .next, .writer .kill, .send 0 .next, .send 0 .next]

theorem none_stranded_iff_answered :
    (∀ as t, as <+: answeredRun → Lts.run (step .tiny) (start .tiny) as = some t → NoneStranded t) ↔
      Lts.Path (step .tiny) HandsOverInTime (start .tiny) answeredRun
        (Lts.after (step .tiny) (start .tiny) answeredRun) :=
  none_stranded_iff .tiny answeredRun _ (Lts.run_after rfl)

end FogWS
