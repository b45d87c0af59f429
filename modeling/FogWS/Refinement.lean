import FogWS.Lib.Session
import FogWS.Teardown
/-!
# The driver is a session

`Session` says what a connection is for: two queues and one outcome. `St.session` reads a session off a state
of the driver, `emits` says which of its events a step of the driver makes, and every run of the driver, with
any schedule, is a run of the session.

| here | there |
| --- | --- |
| `inbox` | in the hand of a `receive`, queued in the inbound channel, or held by the reader |
| `outbox` | handed over by `send_admitted` and not yet passed to the sink |
| `flight` | passed to the sink, whose `writer.send` has not succeeded |
| `down` | the state is not `Open` |
| `outcome` | the error of `Closed` |
| `deaf`, `mute` | the read half, the write half has been dropped |

A message is lost where `queue_inbound` lets go of it (driver.rs:542), or where the receiver is dropped with
what is queued.
-/
namespace FogWS

abbrev DriverSession := Session InboundMessage OutboundCommand DriverError

abbrev DriverEvent := Session.Event InboundMessage OutboundCommand DriverError

/-- A message that was read will not be delivered. -/
def St.isCut (s : St) : Bool :=
  s.delivered.length + s.reader.loc.pending.length < s.hist.read.length ∨ s.driver = .dropped

def St.session (s : St) : DriverSession where
  inbox := s.hand ++ s.inbound.channel.queue.map (·.message) ++
    if s.isCut then [] else s.reader.loc.pending
  cut := s.isCut
  outbox := s.hist.handed.drop s.hist.passed.length
  flight := s.hist.passed.drop s.hist.succeeded.length
  sent := s.hist.succeeded
  down := s.cells.state.value ≠ .opened
  outcome := s.cells.state.value.closedError
  deaf := s.reader.loc.isDone
  mute := s.writer.loc.isDone

@[simp] theorem session_cut (s : St) : s.session.cut = s.isCut := rfl

@[simp] theorem session_deaf (s : St) : s.session.deaf = s.reader.loc.isDone := rfl

@[simp] theorem session_mute (s : St) : s.session.mute = s.writer.loc.isDone := rfl

theorem isCut_iff {s : St} : s.isCut = true ↔
    s.delivered.length + s.reader.loc.pending.length < s.hist.read.length ∨ s.driver = .dropped :=
  decide_eq_true_iff

theorem session_inbox (s : St) : s.session.inbox = s.hand ++ s.inbound.channel.queue.map (·.message) ++
    if s.isCut then [] else s.reader.loc.pending := rfl

/-! ## The events of a step -/

/-- What a step does at the interface of the connection, with the transport or with a call. -/
def St.emits (s : St) : Label → List DriverEvent
  | .reader (.item (some (.ok m))) => (InboundMessage.ofMessage m).toList.map .arrive
  | .writer .next => match s.writer.loc with
    | .sendStart command => [.write command]
    | _ => []
  | .writer .sinkOk => match s.writer.loc with
    | .send command => [.written command]
    | _ => []
  | .send i (.handOver m) => match s.sends[i]? with
    | some (.admitted size) => if m.len = size then [.accept ⟨i, m, m.len⟩] else []
    | _ => []
  | .send i .next => match s.sends[i]? with
    | some .response => match s.outbound.responses i with
      | .answered result => [.answer i result]
      | _ => []
    | some .terminal => [.answer i (.error (terminalError s.cells.state.value))]
    | _ => []
  | .receive i .next => match s.receives[i]? with
    | some (.finish (.ok m)) => [.deliver m]
    | some (.finish (.error e)) => [.exhausted e]
    | _ => []
  | .close i .next => match s.closes[i]? with
    | some (.waitTasks e wait) =>
      if wait.step s.cells.tasksRemaining (· == 0) = some none then [.closed e] else []
    | _ => []
  | _ => []

/-- An event of its own for a flag that is raised. -/
def raised (e : DriverEvent) (before after : Bool) : List DriverEvent :=
  if !before && after then [e] else []

/-- The outcome, where there is one for the first time. -/
def finished (before after : Option DriverError) : List DriverEvent :=
  match before, after with
  | none, some e => [.finish e]
  | _, _ => []

/-- What a step does to the session behind the interface. -/
def St.changes (s t : St) : List DriverEvent :=
  raised .begin s.session.down t.session.down ++
  finished s.session.outcome t.session.outcome ++
  (if t.driver = .dropped ∧ s.driver ≠ .dropped then [.abandon]
    else raised .lose s.isCut t.isCut) ++
  raised .deafen s.session.deaf t.session.deaf ++
  raised .silence s.session.mute t.session.mute

/-- The events of a step of the driver. -/
def events (config : ConnectionConfig) (s : St) (l : Label) : List DriverEvent :=
  match step config s l with
  | some t => s.emits l ++ s.changes t
  | none => []

abbrev sessionStep : DriverSession → DriverEvent → Option DriverSession := Session.step OutboundCommand.id

/-! ## Behind the interface -/

variable {config : ConnectionConfig} {s t : St} {l : Label} {v : DriverSession}

theorem raised_self (e : DriverEvent) (b : Bool) : raised e b b = [] := by
  cases b <;> rfl

/-- A flag is raised by the event that raises it. -/
theorem run_raised {e : DriverEvent} {b b' : Bool} {w : DriverSession} (hmono : b = true → b' = true)
    (hsame : b = b' → v = w) (hraise : b = false → b' = true → sessionStep v e = some w) :
    Lts.run sessionStep v (raised e b b') = some w := by
  cases b with
  | true => rw [hsame (hmono rfl).symm]; simp [raised, Lts.run]
  | false =>
    cases b' with
    | false => rw [hsame rfl]; rfl
    | true => simp [raised, Lts.run, hraise rfl rfl]

theorem run_finished {o o' : Option DriverError} (hv : v.outcome = o)
    (hkeep : ∀ e, o = some e → o' = some e) (hdown : o'.isSome → v.down = true) :
    Lts.run sessionStep v (finished o o') = some { v with outcome := o' } := by
  obtain ⟨inbox, cut, outbox, flight, sent, down, outcome, deaf, mute⟩ := v
  cases hv
  cases outcome with
  | some e => rw [hkeep e rfl]; rfl
  | none =>
    cases o' with
    | none => rfl
    | some e =>
      have hd := hdown rfl
      simp only at hd
      simp [finished, Lts.run, Session.step, hd]

/-- How the queue of arrived messages changes behind the interface. -/
inductive Flow (s t : St) (v : DriverSession) : Prop
  | kept (hin : v.inbox = t.session.inbox) (hcut : v.cut = t.isCut)
      (hsame : s.isCut = t.isCut) (hd : t.driver = .dropped → s.driver = .dropped)
  | lost (hin : v.inbox.dropLast = t.session.inbox) (hcut : v.cut = false) (hs : s.isCut = false)
      (ht : t.isCut = true) (hdown : t.session.down = true)
      (hd : t.driver = .dropped → s.driver = .dropped)
  | abandoned (hs : s.driver ≠ .dropped) (ht : t.driver = .dropped) (hin : t.session.inbox = [])

theorem run_flow {w : DriverSession} (hflow : Flow s t w) (hin : v.inbox = w.inbox) (hcut : v.cut = w.cut)
    (hdown : v.down = t.session.down) (hout : t.driver = .dropped → v.outcome.isSome) :
    Lts.run sessionStep v (if t.driver = .dropped ∧ s.driver ≠ .dropped then [.abandon]
      else raised .lose s.isCut t.isCut) =
      some { v with inbox := t.session.inbox, cut := t.isCut } := by
  cases hflow with
  | kept hi hc hsame hd =>
    rw [if_neg fun hx => hx.2 (hd hx.1), hsame, raised_self, ← hi, ← hc, ← hin, ← hcut]
    rfl
  | lost hi hc hs ht hd' hd =>
    rw [if_neg fun hx => hx.2 (hd hx.1)]
    simp [raised, hs, ht, Lts.run, Session.step, hdown, hd', hcut, hc, hin, hi]
  | abandoned hs ht hi =>
    have hct : t.isCut = true := by simp [St.isCut, ht]
    simp [ht, hs, Lts.run, Session.step, hout ht, hi, hct]

/-- What is left of the events of a step after those at the interface. -/
structure Behind (s t : St) (v : DriverSession) : Prop where
  outbox : v.outbox = t.session.outbox
  flight : v.flight = t.session.flight
  sent : v.sent = t.session.sent
  down : v.down = s.session.down
  outcome : v.outcome = s.session.outcome
  deaf : v.deaf = s.session.deaf
  mute : v.mute = s.session.mute
  flow : Flow s t v

/-- Flags and outcome of a session only go one way. -/
structure Onward (s t : St) : Prop where
  down : s.session.down = true → t.session.down = true
  outcome : ∀ e, s.session.outcome = some e → t.session.outcome = some e
  begun : t.session.outcome.isSome → t.session.down = true
  deaf : s.session.deaf = true → t.session.deaf = true
  mute : s.session.mute = true → t.session.mute = true
  gone : t.session.deaf = true ∨ t.session.mute = true → t.session.outcome.isSome

theorem run_changes (ho : Onward s t) (hb : Behind s t v)
    (hd : t.driver = .dropped → t.session.outcome.isSome) :
    Lts.run sessionStep v (s.changes t) = some t.session := by
  have hbegin : Lts.run sessionStep v (raised .begin s.session.down t.session.down) =
      some { v with down := t.session.down } :=
    run_raised ho.down (fun he => by rw [← he, ← hb.down]) fun _ ht => by rw [ht]; rfl
  have hfinish : Lts.run sessionStep { v with down := t.session.down }
      (finished s.session.outcome t.session.outcome) =
        some { v with down := t.session.down, outcome := t.session.outcome } :=
    run_finished hb.outcome ho.outcome ho.begun
  have hflow := run_flow (v := { v with down := t.session.down, outcome := t.session.outcome })
    hb.flow rfl rfl rfl hd
  have hdeafen : Lts.run sessionStep { v with
        down := t.session.down, outcome := t.session.outcome, inbox := t.session.inbox, cut := t.isCut }
      (raised .deafen s.session.deaf t.session.deaf) = some { t.session with mute := s.session.mute } := by
    refine run_raised ho.deaf (fun he => ?_) fun _ ht => ?_
    · simp only [← he, ← hb.deaf, ← hb.mute, ← hb.outbox, ← hb.flight, ← hb.sent, session_cut]
    · simp only [Session.step, ho.gone (.inl ht), if_true, ← hb.mute, ← hb.outbox, ← hb.flight, ← hb.sent,
        session_cut, ht]
  have hsilence : Lts.run sessionStep { t.session with mute := s.session.mute }
      (raised .silence s.session.mute t.session.mute) = some t.session := by
    refine run_raised ho.mute (fun he => by rw [he]) fun _ ht => ?_
    simp only [Session.step, ho.gone (.inr ht), if_true, ← ht]
  simp only [St.changes, Lts.run_append, hbegin, hfinish, hflow, hdeafen, hsilence, Option.bind_some]

/-! ## The reader -/

/-- What a step of the reader does with the messages. -/
inductive ReaderFlow (s t : St) (loc : ReaderLoc) : ReaderAct → Prop
  | take (m : Message) (d : InboundMessage) (hm : InboundMessage.ofMessage m = some d) (hloc : loc = .select)
      (hp : t.reader.loc.pending = [d]) (hread : t.hist.read = s.hist.read ++ [d])
      (hch : t.inbound.channel = s.inbound.channel) : ReaderFlow s t loc (.item (some (.ok m)))
  | push {a : ReaderAct} (d : InboundMessage) (permit : Nat) (hloc : loc = .send d permit) (ha : a = .next)
      (hp : t.reader.loc.pending = []) (hread : t.hist.read = s.hist.read)
      (hopen : s.inbound.channel.closed = false)
      (hq : t.inbound.channel.queue = s.inbound.channel.queue ++ [⟨d, permit⟩]) : ReaderFlow s t loc a
  | drop {a : ReaderAct} (hp : t.reader.loc.pending = []) (hread : t.hist.read = s.hist.read)
      (hch : t.inbound.channel = s.inbound.channel) (he : s.emits (.reader a) = [])
      (hdown : t.cells.state.value ≠ .opened ∨ loc.pending = []) : ReaderFlow s t loc a
  | same {a : ReaderAct} (hp : t.reader.loc.pending = loc.pending) (hread : t.hist.read = s.hist.read)
      (hch : t.inbound.channel = s.inbound.channel) (he : s.emits (.reader a) = []) : ReaderFlow s t loc a

theorem ReaderFlow.quiet {loc : ReaderLoc} {a : ReaderAct} (ha : ∀ i, a ≠ .item i)
    (hp : t.reader.loc.pending = loc.pending) (hread : t.hist.read = s.hist.read)
    (hch : t.inbound.channel = s.inbound.channel) : ReaderFlow s t loc a := by
  refine .same hp hread hch ?_
  cases a with
  | item i => exact absurd rfl (ha i)
  | _ => rfl

theorem readerStep_flow {bits : Nat} {a : ReaderAct} (hcfg : config.Accepted bits) (hl : Lifecycle s)
    (hd : Delivery s) (hst : Stock config s) (h : readerStep s s.reader.loc a = some t) :
    ReaderFlow s t s.reader.loc a := by
  have hbegun : s.cells.shutdown.value ≠ .running → s.cells.state.value ≠ .opened := fun hne ho => by
    have := hl.cells.signal_le
    rw [ho] at this
    exact hne (ShutdownSignal.rank_eq_zero.mp (Nat.le_zero.mp this))
  have hmoved : s.reader.seen < s.cells.shutdown.version → s.cells.state.value ≠ .opened :=
    fun hlt => hbegun fun hrun => by
      have := hl.cells.signal_pos hlt
      rw [hrun] at this; exact absurd this (by decide)
  have hsized := hst.reader
  generalize hloc : s.reader.loc = loc at h hsized
  cases readerStep_rule h with
  | text p => exact .take (.text p) (.text p) rfl rfl rfl rfl rfl
  | binary p => exact .take (.binary p) (.binary p) rfl rfl rfl rfl rfl
  | send m permit channel hsend =>
    obtain ⟨hopen, -, rfl⟩ := Mpsc.trySend_ok hsend
    exact .push m permit rfl rfl rfl rfl hopen rfl
  -- the message is let go
  | queueStopped _ hne => exact .drop rfl rfl rfl rfl (.inl (hbegun hne))
  | queueTooLong _ _ hlen => exact absurd (hcfg.size_le_u32 hsized.2) (Nat.not_le_of_gt hlen)
  | acquireOther _ _ hm => exact .drop rfl rfl rfl rfl (.inr (by simp [ReaderLoc.pending, hm]))
  | acquireChanged _ hv | sendChanged _ _ hv => exact .drop rfl rfl rfl rfl (.inl (hmoved hv))
  | sendClosed _ _ hcl =>
    refine .drop rfl rfl rfl rfl (.inl (hbegun fun hrun => ?_))
    rw [hd.closed (Mpsc.trySend_closed hcl)] at hrun; cases hrun
  | kill _ hab =>
    refine .drop rfl rfl rfl rfl (.inl fun ho => ?_)
    have h3 := hl.cells.aborted (.inl hab)
    change s.cells.state.value = .opened at ho
    rw [ho] at h3; cases h3
  | acquire _ _ _ hm => exact .quiet (by rintro _ ⟨⟩) (by simp [St.readerAt, ReaderLoc.pending, hm]) rfl rfl
  | errTaken | ended =>
    exact .quiet (by rintro _ ⟨⟩) (ReaderLoc.pending_conclude _) rfl rfl
  | streamEnd | streamError | closeFrame | ping | pong | frame => exact .same rfl rfl rfl rfl
  | _ => exact .quiet (by rintro _ ⟨⟩) rfl rfl rfl

/-- Nothing is delivered or held that was not read. -/
def Counted (s : St) : Prop := s.delivered.length + s.reader.loc.pending.length ≤ s.hist.read.length

/-- What the session needs to know of the driver. -/
structure Known (config : ConnectionConfig) (s : St) : Prop where
  reachable : Reachable config s
  stock : Stock config s
  counted : Counted s

/-- A cut session has nothing in the reader's hands that is still to be queued. -/
theorem Known.uncut (h : Known config s) {d : InboundMessage} {permit : Nat}
    (hloc : s.reader.loc = .send d permit) (hopen : s.inbound.channel.closed = false) : s.isCut = false := by
  have hpend : s.reader.loc.pending = [d] := by rw [hloc]; rfl
  have hdr : s.driver ≠ .dropped := fun hd => by
    rw [((swept_reachable h.reachable).inbound hd).1] at hopen; cases hopen
  rcases (delivery_reachable h.reachable).order with ho | ⟨-, hc | hlv | ⟨-, hask⟩⟩
  · have hlen := congrArg List.length ho
    rw [List.length_append] at hlen
    simp [St.isCut, hdr, hlen]
  · rw [hopen] at hc; cases hc
  · rw [hloc] at hlv; cases hlv
  · rw [hloc] at hask; cases hask

/-- The session with another queue of arrived messages is what is left behind the interface. -/
theorem Behind.of_flow (inbox : List InboundMessage) (cut : Bool) (hh : t.hist.handed = s.hist.handed)
    (hp : t.hist.passed = s.hist.passed) (hs : t.hist.succeeded = s.hist.succeeded)
    (hflow : Flow s t { s.session with inbox, cut }) : Behind s t { s.session with inbox, cut } :=
  ⟨by simp only [St.session, hh, hp], by simp only [St.session, hp, hs], hs.symm, rfl, rfl, rfl, rfl, hflow⟩

theorem reader_interface {bits : Nat} {a : ReaderAct} (hcfg : config.Accepted bits) (h : Known config s)
    (hst : readerStep s s.reader.loc a = some t) :
    (∃ v, Lts.run sessionStep s.session (s.emits (.reader a)) = some v ∧ Behind s t v) ∧ Counted t := by
  have f := readerStep_frame hst
  have hflow := readerStep_flow hcfg (lifecycle_reachable h.reachable) (delivery_reachable h.reachable)
    h.stock hst
  have hc := h.counted
  have hhand : t.hand = s.hand := by simp only [St.hand, f.receives]
  have hdel : t.inbound.channel = s.inbound.channel → t.delivered = s.delivered := fun hch => by
    simp only [St.delivered, hhand, f.returned, hch]
  have hbehind : ∀ inbox cut, Flow s t { s.session with inbox, cut } →
      Behind s t { s.session with inbox, cut } := fun _ _ => .of_flow _ _ f.handed f.passed f.succeeded
  have hdr : t.driver = .dropped → s.driver = .dropped := by rw [f.driver]; exact id
  generalize hloc : s.reader.loc = loc at hflow
  simp only [Counted, hloc] at hc
  cases hflow with
  | take m d hm hsel hp hread hch =>
    subst hsel
    have hcut : t.isCut = s.isCut := by
      simp only [St.isCut, hdel hch, hp, hread, f.driver, hloc]
      simp [ReaderLoc.pending]
    refine ⟨⟨_, ?_, hbehind (if s.isCut then s.session.inbox else s.session.inbox ++ [d]) s.isCut
      (.kept ?_ hcut.symm hcut.symm hdr)⟩, ?_⟩
    · simp [St.emits, hm, Lts.run, Session.step, hloc, ReaderLoc.isDone]
      rfl
    · simp only [session_inbox, hhand, hch, hcut, hp, hloc]
      cases s.isCut <;> simp [ReaderLoc.pending]
    · simp only [Counted, hdel hch, hp, hread, List.length_append, List.length_singleton]
      simp only [ReaderLoc.pending, List.length_nil] at hc
      omega
  | push d permit hsend ha hp hread hopen hq =>
    subst hsend ha
    have hcut := h.uncut hloc hopen
    have hlen : t.delivered.length = s.delivered.length + 1 := by
      simp only [St.delivered, hhand, f.returned, hq, List.map_append, List.length_append, List.length_map,
        List.length_singleton]
      omega
    have hcut' : t.isCut = false := by
      rw [← hcut]
      simp only [St.isCut, hlen, hp, hread, f.driver, hloc]
      rfl
    refine ⟨⟨s.session, rfl, hbehind _ _ (.kept ?_ (hcut.trans hcut'.symm) (hcut.trans hcut'.symm) hdr)⟩, ?_⟩
    · simp only [session_inbox, hhand, hq, hcut, hcut', hloc, hp]
      simp [ReaderLoc.pending]
    · simp only [Counted, hlen, hp, hread, List.length_nil]
      exact hc
  | drop hp hread hch he hdown =>
    rw [he]
    refine ⟨⟨s.session, rfl, hbehind _ _ ?_⟩, ?_⟩
    · -- the session is cut now, unless the reader held no message
      by_cases hnone : loc.pending = []
      · have hcut : t.isCut = s.isCut := by
          simp only [St.isCut, hdel hch, hp, hread, f.driver, hloc, hnone]
        exact .kept (by simp only [session_inbox, hhand, hch, hcut, hp, hloc, hnone]) hcut.symm hcut.symm hdr
      · have hlen : 0 < loc.pending.length := List.length_pos_iff.mpr hnone
        have hcut' : t.isCut = true := by
          simp only [St.isCut, hdel hch, hp, hread, List.length_nil, decide_eq_true_eq]
          exact .inl (by omega)
        cases hcut : s.isCut with
        | true =>
          refine .kept ?_ hcut'.symm (hcut.trans hcut'.symm) hdr
          simp only [session_inbox, hhand, hch, hcut', if_true]
        | false =>
          refine .lost ?_ rfl hcut hcut' ?_ hdr
          · obtain ⟨d, hd⟩ : ∃ d, loc.pending = [d] := List.length_eq_one_iff.mp
              (Nat.le_antisymm loc.pending_length hlen)
            simp [session_inbox, hhand, hch, hcut', hloc, hd]
          · exact decide_eq_true (hdown.resolve_right hnone)
    · simp only [Counted, hdel hch, hp, hread, List.length_nil]
      omega
  | same hp hread hch he =>
    have hcut : t.isCut = s.isCut := by simp only [St.isCut, hdel hch, hp, hread, f.driver, hloc]
    rw [he]
    refine ⟨⟨s.session, rfl, hbehind _ _ (.kept ?_ hcut.symm hcut.symm hdr)⟩, ?_⟩
    · simp only [session_inbox, hhand, hch, hcut, hp, hloc]
    · rw [Counted, hdel hch, hp, hread]; exact hc

/-! ## The writer -/

/-- A step that leaves the inbound side alone. -/
theorem Flow.of_eq (hr : t.reader = s.reader) (hrec : t.receives = s.receives) (hin : t.inbound = s.inbound)
    (hread : t.hist.read = s.hist.read) (hret : t.hist.returned = s.hist.returned)
    (hd : t.driver = .dropped ↔ s.driver = .dropped) (hi : v.inbox = s.session.inbox)
    (hc : v.cut = s.isCut) : Flow s t v := by
  have hcut : t.isCut = s.isCut := Bool.eq_iff_iff.mpr <| by
    simp only [isCut_iff, St.delivered, St.hand, hr, hrec, hin, hread, hret, hd]
  refine .kept ?_ (hc.trans hcut.symm) hcut.symm hd.mp
  rw [hi]
  simp only [session_inbox, St.hand, hr, hrec, hin, hcut]

theorem writer_interface {a : WriterAct} (h : Known config s)
    (hst : writerStep s s.writer.loc a = some t) :
    ∃ v, Lts.run sessionStep s.session (s.emits (.writer a)) = some v ∧ Behind s t v := by
  have f := writerStep_frame hst
  have hd := discipline_reachable h.reachable
  have hflow : ∀ {v : DriverSession}, v.inbox = s.session.inbox → v.cut = s.isCut → Flow s t v :=
    .of_eq f.reader f.receives f.inbound f.read f.returned (by rw [f.driver])
  generalize hloc : s.writer.loc = loc at hst
  have hquiet : s.emits (.writer a) = [] → t.hist.passed = s.hist.passed →
      t.hist.succeeded = s.hist.succeeded →
      ∃ v, Lts.run sessionStep s.session (s.emits (.writer a)) = some v ∧ Behind s t v :=
    fun he hp hs => ⟨s.session, by rw [he]; rfl, .of_flow _ _ f.handed hp hs (hflow rfl rfl)⟩
  cases writerStep_rule hst with
  | sendStart c =>
    have hlive : s.writer.loc.isDone = false := by rw [hloc]; rfl
    have hpassed : s.hist.passed = s.hist.succeeded := by
      rcases hd.last with hl | ⟨hdone, -⟩
      · simpa [hloc, WriterLoc.unfinished] using hl
      · rw [hlive] at hdone; cases hdone
    have hhanded : s.hist.handed = s.hist.succeeded ++ [c] ++ s.outbound.channel.queue := by
      rw [hd.order hlive, hloc, hpassed]; rfl
    refine ⟨{ s.session with outbox := s.outbound.channel.queue, flight := [c] }, ?_, ?_⟩
    · simp [St.emits, hloc, Lts.run, Session.step, St.session, hpassed, hhanded, WriterLoc.isDone]
    · refine ⟨?_, ?_, rfl, rfl, rfl, rfl, rfl, hflow rfl rfl⟩
      · simp only [St.session, St.writerAt, hhanded, hpassed, List.drop_left]
      · simp [St.session, St.writerAt, hpassed]
  | sent c =>
    have hpass : s.hist.passed = s.hist.succeeded ++ [c] := by
      rcases hd.last with hl | ⟨hdone, -⟩
      · simpa [hloc, WriterLoc.unfinished] using hl
      · rw [hloc] at hdone; cases hdone
    refine ⟨{ s.session with flight := [], sent := s.hist.succeeded ++ [c] }, ?_, ?_⟩
    · simp [St.emits, hloc, Lts.run, Session.step, St.session, hpass, WriterLoc.isDone]
    · exact ⟨rfl, by simp [St.session, St.writerAt, hpass], rfl, rfl, rfl, rfl, rfl, hflow rfl rfl⟩
  | _ => exact hquiet (by simp [St.emits, hloc]) rfl rfl

/-! ## The calls -/

/-- A step that emits nothing and leaves both queues alone. -/
theorem Behind.of_eq (hr : t.reader = s.reader) (hrec : t.receives = s.receives)
    (hin : t.inbound = s.inbound) (hh : t.hist = s.hist)
    (hd : t.driver = .dropped ↔ s.driver = .dropped) : Behind s t s.session :=
  .of_flow _ _ (by rw [hh]) (by rw [hh]) (by rw [hh])
    (.of_eq hr hrec hin (by rw [hh]) (by rw [hh]) hd rfl rfl)

theorem send_interface {i : Nat} {loc : SendLoc} {a : SendAct} (h : Known config s)
    (hloc : s.sends[i]? = some loc) (hst : sendStep config s i loc a = some t) :
    ∃ v, Lts.run sessionStep s.session (s.emits (.send i a)) = some v ∧ Behind s t v := by
  have f := sendStep_frame hst
  have hd := discipline_reachable h.reachable
  have hres := results_reachable h.reachable
  have hquiet : s.emits (.send i a) = [] → t.hist = s.hist →
      ∃ v, Lts.run sessionStep s.session (s.emits (.send i a)) = some v ∧ Behind s t v :=
    fun he hh => ⟨s.session, by rw [he]; rfl,
      .of_eq f.reader f.receives f.inbound hh (by rw [f.driver])⟩
  cases sendStep_rule hst with
  | handOver m =>
    refine ⟨{ s.session with outbox := s.session.outbox ++ [⟨i, m, m.len⟩] }, ?_, ?_⟩
    · simp [St.emits, hloc, Lts.run, Session.step]
    · refine ⟨?_, rfl, rfl, rfl, rfl, rfl, rfl, .of_eq rfl rfl rfl rfl rfl Iff.rfl rfl rfl⟩
      simp only [St.session, St.sendAt]
      rw [List.drop_append_of_le_length hd.passed.length_le]
  | answered r hr =>
    refine ⟨s.session, ?_, .of_eq rfl rfl rfl rfl Iff.rfl⟩
    have hok := hres.outbound.responses i
    rw [hr] at hok
    cases r with
    | ok u =>
      cases u
      obtain ⟨c, hc, hci⟩ := hd.answered i hr
      have hany : s.hist.succeeded.any (·.id == i) = true := List.any_eq_true.mpr ⟨c, hc, by simp [hci]⟩
      simp [St.emits, hloc, hr, Lts.run, Session.step, St.session, hany]
    | error e =>
      have hclosed : s.cells.state.value = .closed e := hok
      simp [St.emits, hloc, hr, Lts.run, Session.step, St.session, hclosed, DriverState.closedError]
  | terminal =>
    refine ⟨s.session, ?_, .of_eq rfl rfl rfl rfl Iff.rfl⟩
    obtain ⟨e, he⟩ := DriverState.exists_closed (hres.sends _ (List.mem_of_getElem? hloc))
    simp [St.emits, hloc, Lts.run, Session.step, St.session, he, DriverState.closedError, terminalError]
  | mismatch _ _ hne => exact hquiet (by simp [St.emits, hloc, hne]) rfl
  | unanswered hr => exact hquiet (by simp [St.emits, hloc, hr]) rfl
  | _ => exact hquiet (by simp [St.emits, hloc]) rfl

theorem receive_interface {i : Nat} {loc : ReceiveLoc} {a : CallAct} (h : Known config s)
    (hloc : s.receives[i]? = some loc) (hst : receiveStep s i loc a = some t)
    (hstep : step config s (.receive i a) = some t) :
    (∃ v, Lts.run sessionStep s.session (s.emits (.receive i a)) = some v ∧ Behind s t v) ∧ Counted t := by
  have f := receiveStep_frame hst
  have hdel := delivery_reachable h.reachable
  obtain ⟨loc₁, loc', hloc₁, m⟩ := receive_move hdel.slot hstep
  have hsame := (receive_delivered hdel.slot hloc₁ m).1
  have hread : t.hist.read = s.hist.read := by rw [f.hist]
  have hcut : t.isCut = s.isCut := Bool.eq_iff_iff.mpr <| by
    simp only [isCut_iff, hsame, f.reader, hread, f.driver]
  have hdr : t.driver = .dropped → s.driver = .dropped := by rw [f.driver]; exact id
  have hbehind : ∀ inbox cut, Flow s t { s.session with inbox, cut } →
      Behind s t { s.session with inbox, cut } :=
    fun _ _ => .of_flow _ _ (by rw [f.hist]) (by rw [f.hist]) (by rw [f.hist])
  refine ⟨?_, by rw [Counted, hsame, f.reader, hread]; exact h.counted⟩
  have hkept : t.hist.returned = s.hist.returned → Behind s t s.session := by
    intro hret
    refine hbehind _ _ (.kept ?_ hcut.symm hcut.symm hdr)
    simp only [St.delivered, hret, List.append_assoc, List.append_cancel_left_eq] at hsame
    simp only [session_inbox, hsame, hcut, f.reader]
  cases receiveStep_rule hst with
  | deliver d =>
    have hin : s.session.inbox = d :: (St.session { s.receiveAt i (.returned (.ok d)) with
        inbound.locked := false
        inbound.receiveActive := false
        hist.returned := s.hist.returned ++ [d] }).inbox := by
      simp only [St.delivered, List.append_assoc, List.append_cancel_left_eq] at hsame
      simp only [session_inbox, hcut, ← hsame]
      rfl
    refine ⟨_, ?_, hbehind s.session.inbox.tail s.isCut (.kept (by rw [hin]; rfl) hcut.symm hcut.symm hdr)⟩
    simp [St.emits, hloc, Lts.run, Session.step, hin]
  | fail e =>
    have hd := hdel.drained _ (List.mem_of_getElem? hloc) trivial
    have hclosed : s.cells.state.value = .closed e :=
      (results_reachable h.reachable).receives _ (List.mem_of_getElem? hloc)
    have hpend : s.reader.loc.pending = [] := by
      cases hl : s.reader.loc <;> first | rfl | (have hdone := hd.reader; rw [hl] at hdone; cases hdone)
    have hin : s.session.inbox = [] := by
      rw [session_inbox, hd.hand, hd.queue, hpend]
      cases s.isCut <;> rfl
    have hout : s.session.outcome = some e := by
      simp only [St.session, hclosed, DriverState.closedError]
    refine ⟨s.session, ?_, hkept rfl⟩
    simp [St.emits, hloc, Lts.run, Session.step, hin, hout, hd.reader]
  | _ => exact ⟨s.session, by simp [St.emits, hloc, Lts.run], hkept rfl⟩

theorem close_interface {i : Nat} {loc : CloseLoc} {a : CallAct} (h : Known config s)
    (hloc : s.closes[i]? = some loc) (hst : closeStep s i loc a = some t) :
    ∃ v, Lts.run sessionStep s.session (s.emits (.close i a)) = some v ∧ Behind s t v := by
  obtain ⟨f, -⟩ := closeStep_frame hst
  have hb : Behind s t s.session := .of_eq f.reader f.receives f.inbound f.hist (by rw [f.driver])
  have hquiet : s.emits (.close i a) = [] →
      ∃ v, Lts.run sessionStep s.session (s.emits (.close i a)) = some v ∧ Behind s t v :=
    fun he => ⟨s.session, by rw [he]; rfl, hb⟩
  cases closeStep_rule hst with
  | waitTasksOver e w hw =>
    refine ⟨s.session, ?_, hb⟩
    have hclosed := ((lifecycle_reachable h.reachable).closes _ (List.mem_of_getElem? hloc)).1
    have hzero : s.cells.tasksRemaining.value = 0 := by simpa using Wait.done_of_exit hw
    have hgone := (guards_reachable h.reachable).gone hzero ⟨e, hclosed⟩
    simp [St.emits, hloc, hw, Lts.run, Session.step, St.session, hclosed, hgone.reader, hgone.writer,
      DriverState.closedError, ReaderLoc.isDone, WriterLoc.isDone]
  | waitTasks _ _ _ hw => exact hquiet (by simp [St.emits, hloc, hw])
  | _ => exact hquiet (by simp [St.emits, hloc])

/-! ## The result -/

/-- An ended reader stays ended. -/
theorem ended_step (hd : s.reader.loc.isDone = true) (hst : step config s l = some t) :
    t.reader.loc.isDone = true := by
  cases step_move hst with
  | reader _ hst => exact (readerStep_done hd hst).1
  | writer f | control f | send f | receive f => rw [f.reader]; exact hd
  | _ => exact hd

theorem onward_step (hl : Lifecycle s) (hst : step config s l = some t) : Onward s t := by
  obtain ⟨hl', he⟩ := lifecycle_step hl hst
  have hout : ∀ {v : DriverState}, v.closedError.isSome ↔ 3 ≤ v.rank := by
    intro v; cases v <;> simp [DriverState.closedError, DriverState.rank]
  refine ⟨fun hd => ?_, fun e ho => ?_, fun ho => ?_, fun hd => ?_, fun hd => done_step hd hst, fun hg => ?_⟩
  · refine decide_eq_true fun ho => of_decide_eq_true hd ?_
    have hf := he.forward
    rw [ho] at hf
    exact hf.resolve_right (Nat.not_lt_zero _)
  · have hc := DriverState.eq_closed_of_closedError ho
    simp only [St.session, he.closed hc, DriverState.closedError]
  · refine decide_eq_true fun hopen => ?_
    have h3 := hout.mp ho
    rw [hopen] at h3; cases h3
  · exact ended_step hd hst
  · refine hout.mpr ?_
    rcases hg with hg | hg
    · exact hl'.closed_of_reader hg
    · exact hl'.closed_of_writer hg

theorem step_interface {bits : Nat} (hcfg : config.Accepted bits) (h : Known config s)
    (hst : step config s l = some t) :
    (∃ v, Lts.run sessionStep s.session (s.emits l) = some v ∧ Behind s t v) ∧ Counted t := by
  have hcounted : t.delivered = s.delivered → t.reader = s.reader → t.hist.read = s.hist.read → Counted t :=
    fun hdel hr hread => by rw [Counted, hdel, hr, hread]; exact h.counted
  cases step_move hst with
  | reader _ hst => exact reader_interface hcfg h hst
  | writer f hst =>
    refine ⟨writer_interface h hst, hcounted ?_ f.reader f.read⟩
    simp only [St.delivered, St.hand, f.receives, f.inbound, f.returned]
  | control f m =>
    refine ⟨?_, hcounted (by simp only [St.delivered, St.hand, f.receives, f.inbound, f.hist]) f.reader
      (by rw [f.hist])⟩
    have hb : Behind s t s.session := .of_eq f.reader f.receives f.inbound f.hist (by rw [f.driver])
    cases m with
    | close hloc hst => exact close_interface h hloc hst
    | watchdog | abort | callClose | callAbort => exact ⟨s.session, rfl, hb⟩
  | send f hloc hst =>
    have hret : t.hist.returned = s.hist.returned := by rw [f.hist]
    refine ⟨send_interface h hloc hst, hcounted ?_ f.reader (by rw [f.hist])⟩
    simp only [St.delivered, St.hand, f.receives, f.inbound, hret]
  | receive _ hloc hst' => exact receive_interface h hloc hst' hst
  | callAdmit => exact ⟨⟨s.session, rfl, .of_eq rfl rfl rfl rfl Iff.rfl⟩, hcounted rfl rfl rfl⟩
  | dropDriver hal =>
    refine ⟨⟨s.session, rfl, .of_eq rfl rfl rfl rfl ?_⟩, hcounted rfl rfl rfl⟩
    simp [hal]
  | callReceive =>
    have hhand : St.hand { s with receives := s.receives ++ [.start] } = s.hand := by
      simp [St.hand, ReceiveLoc.hand]
    have hdel : St.delivered { s with receives := s.receives ++ [.start] } = s.delivered := by
      simp only [St.delivered, hhand]
    have hcut : St.isCut { s with receives := s.receives ++ [.start] } = s.isCut :=
      Bool.eq_iff_iff.mpr (by simp only [isCut_iff, hdel])
    refine ⟨⟨s.session, rfl, .of_flow _ _ rfl rfl rfl (.kept ?_ hcut.symm hcut.symm id)⟩, hcounted hdel rfl rfl⟩
    simp only [session_inbox, hhand, hcut]
  | dropFields hdr hover =>
    have hover := (retired_reachable h.reachable).receives (by rw [hdr]; rintro ⟨⟩)
    have hhand : s.hand = [] := List.flatMap_eq_nil_iff.mpr fun x hx => by
      have ho := hover x hx
      cases x <;> first | rfl | cases ho
    refine ⟨⟨s.session, rfl, .of_flow _ _ rfl rfl rfl (.abandoned (by rw [hdr]; rintro ⟨⟩) rfl ?_)⟩, ?_⟩
    · have hcut : (dropFields s).isCut = true := isCut_iff.mpr (.inr rfl)
      have hhand' : (dropFields s).hand = [] := hhand
      rw [session_inbox, hcut, hhand']
      rfl
    · have hc := h.counted
      simp only [Counted, St.delivered, List.length_append] at hc ⊢
      simp only [dropFields, Mpsc.dropReceiver, St.hand, List.map_nil, List.length_nil] at hc ⊢
      omega

theorem session_step {bits : Nat} (hcfg : config.Accepted bits) (h : Known config s)
    (hfit : l.fits config = true) (hst : step config s l = some t) :
    Known config t ∧ Lts.run sessionStep s.session (events config s l) = some t.session := by
  have hreach := h.reachable.next hst
  have hl := lifecycle_reachable hreach
  obtain ⟨⟨v, hrun, hb⟩, hc⟩ := step_interface hcfg h hst
  refine ⟨⟨hreach, stock_step h.stock hfit hst, hc⟩, ?_⟩
  rw [events, hst]
  dsimp only
  rw [Lts.run_append, hrun, Option.bind_some]
  refine run_changes (onward_step (lifecycle_reachable h.reachable) hst) hb fun hd => ?_
  obtain ⟨e, he⟩ := DriverState.exists_closed (hl.dropped hd)
  simp [St.session, he, DriverState.closedError]

/-- **The driver refines the session.** What the steps of a run do at the interface of the connection, with
what they do to the session behind it, is a run of the session. -/
theorem driver_refines_session {bits : Nat} (ls : List Label) (hcfg : config.Accepted bits)
    (hrun : Lts.run (step config) (start config) ls = some s) (hfit : ∀ l ∈ ls, l.fits config = true) :
    Lts.run sessionStep Session.start (Lts.trace (step config) (events config) (start config) ls) =
      some s.session :=
  Lts.run_trace St.session (Known config) (fun l => l.fits config = true)
    (fun _ _ _ h hfit hst => session_step hcfg h hfit hst) ⟨.start, stock_start config, Nat.zero_le _⟩ hfit hrun

/-- A message is received and another one sent; then the peer closes while a third message is in the reader's
hands, and the application learns of the end. -/
def wholeRun : List Label :=
  [.writer .next, .writer .next, .reader .next, .reader .next,
    .reader (.item (some (.ok (.binary [1])))), .reader .next, .reader .next, .reader .next,
    .callReceive, .receive 0 .next, .receive 0 .next, .receive 0 .next, .receive 0 .next, .receive 0 .next,
    .callAdmit 1, .send 0 .next, .send 0 .next, .send 0 .next, .send 0 (.handOver (.binary [7])),
    .writer .outbound, .writer .next, .writer .sinkOk, .writer .next, .send 0 .next, .writer .next,
    .callAbort, .reader .next, .reader (.item (some (.ok (.text "lost")))), .abort 0, .abort 0, .abort 0,
    .reader .next, .abort 0, .abort 0, .reader .next, .reader .next, .callReceive, .receive 1 .next,
    .receive 1 .next, .receive 1 .next, .receive 1 .next, .receive 1 .next]

theorem driver_refines_session_whole :
    Lts.run sessionStep Session.start (Lts.trace (step .tiny) (events .tiny) (start .tiny) wholeRun) =
      some (Lts.after (step .tiny) (start .tiny) wholeRun).session ∧
    Lts.trace (step .tiny) (events .tiny) (start .tiny) wholeRun =
      [.arrive (.binary [1]), .deliver (.binary [1]), .accept ⟨0, .binary [7], 1⟩,
        .write ⟨0, .binary [7], 1⟩, .written ⟨0, .binary [7], 1⟩, .answer 0 (.ok ()),
        .arrive (.text "lost"), .begin, .finish abandoned, .lose, .deafen, .exhausted abandoned] := by
  have hcfg : ConnectionConfig.Accepted 64 .tiny := by constructor <;> decide
  exact ⟨driver_refines_session wholeRun hcfg (Lts.run_after rfl) (by decide), rfl⟩

/-- **What comes after the end.** In every run, the outcome is made once and everybody who asks is told the
same one; no message arrives or is delivered once a receiver has been told that there are none left; and
nothing happens on the wire once a closer has been told that the connection is closed. -/
theorem nothing_after_the_end {bits : Nat} (ls : List Label) (hcfg : config.Accepted bits)
    (hrun : Lts.run (step config) (start config) ls = some s) (hfit : ∀ l ∈ ls, l.fits config = true) :
    Session.Ended (Lts.trace (step config) (events config) (start config) ls) :=
  Session.ended_of_run <|
    Lts.run_trace St.session (Known config) (fun l => l.fits config = true)
      (fun _ _ _ h hfit hst => session_step hcfg h hfit hst) ⟨.start, stock_start config, Nat.zero_le _⟩
      hfit hrun

/-- Both ends of the run that `wholeRun` leaves open: a receiver and an aborting caller have been told. -/
theorem nothing_after_the_end_whole :
    Session.Ended (Lts.trace (step .tiny) (events .tiny) (start .tiny) wholeRun) :=
  have hcfg : ConnectionConfig.Accepted 64 .tiny := by constructor <;> decide
  nothing_after_the_end wholeRun hcfg (Lts.run_after rfl) (by decide)

end FogWS
