import FogWS.Frames
/-!
# The outbound budget

Two resources bound what the application may have on its way out: the byte permits of
`outbound_budget` and the slots of the outbound channel.

| here                  | `driver.rs`                                                        |
|-----------------------|--------------------------------------------------------------------|
| `SendLoc.bytes`       | the byte permit a `try_admit_outbound` or an admission holds       |
| `SendLoc.slots`       | the item permit an admission holds                                 |
| `St.held`             | the command in flight at the writer, then the queued commands      |

`Account` says that nothing else holds them. What a single call takes is read off the share rule:
other calls may move the same counters between two of its steps.
-/
namespace FogWS

/-- The byte permits in the hands of a call. -/
def SendLoc.bytes : SendLoc → Nat
  | .reserve size | .refuse size | .giveBack size _ _ | .admitted size => size
  | _ => 0

/-- The channel slots in the hands of a call. -/
def SendLoc.slots : SendLoc → Nat
  | .admitted _ => 1
  | _ => 0

/-- The call is inside `try_admit_outbound`, or this is what it has just returned. -/
def SendLoc.Admitting : SendLoc → Prop
  | .start _ | .acquire _ | .reserve _ | .refuse _ | .giveBack _ _ _ | .refused _ _ | .admitted _ => True
  | _ => False

/-- Up to its admission, the call is about a message of this size. -/
def SendLoc.Sized (n : Nat) : SendLoc → Prop
  | .start size | .acquire size | .reserve size | .refuse size | .giveBack size _ _ | .admitted size =>
    size = n
  | _ => True

/-- The commands whose byte permits are not back yet, oldest first. -/
def St.held (s : St) : List OutboundCommand := s.writer.loc.inFlight.toList ++ s.outbound.channel.queue

/-! ## The steps of a send -/

variable {config : ConnectionConfig} {s s' : St} {l : Label}

/-- A step of a send that is not the hand-over of its command. -/
structure SendQuiet (s s' : St) (i : Nat) (loc loc' : SendLoc) : Prop where
  bytes : s'.outbound.budget + loc'.bytes = s.outbound.budget + loc.bytes
  free : s'.outbound.channel.free + loc'.slots = s.outbound.channel.free + loc.slots
  queue : s'.outbound.channel.queue = s.outbound.channel.queue
  closed : s'.outbound.channel.closed = s.outbound.channel.closed
  responses : s'.outbound.responses = s.outbound.responses
  handed : s'.hist.handed = s.hist.handed
  admitting : loc'.Admitting → loc.Admitting
  sized : ∀ n, loc.Sized n → loc'.Sized n
  /-- Success is only reported on the answer of the writer. -/
  ok : loc' = .returned (.ok ()) → s.outbound.responses i = .answered (.ok ())

/-- The state after `item_permit.send(command)`. -/
def handOver (s : St) (i : Nat) (message : Message) : St :=
  { s.sendAt i .response with
    outbound :=
      { s.outbound.respond i .pending with
        channel := s.outbound.channel.push ⟨i, message, message.len⟩ }
    hist.handed := s.hist.handed ++ [⟨i, message, message.len⟩] }

/-- What a step of a send does: it hands its command over, or it only moves its own permits. -/
theorem sendStep_move {i : Nat} {loc : SendLoc} {a : SendAct}
    (h : sendStep config s i loc a = some s') :
    (∃ message, a = .handOver message ∧ loc = .admitted message.len ∧ s' = handOver s i message) ∨
      ∃ loc', s'.sends = s.sends.set i loc' ∧ SendQuiet s s' i loc loc' := by
  cases sendStep_rule h with
  | handOver message => exact .inl ⟨_, rfl, rfl, rfl⟩
  | acquire _ hle =>
    exact .inr ⟨.reserve _, rfl, Nat.sub_add_cancel hle, rfl, rfl, rfl, rfl, rfl, fun _ => trivial,
      fun _ => id, nofun⟩
  | reserve _ c hc =>
    obtain ⟨-, hpos, rfl⟩ := Mpsc.tryReserve_ok hc
    exact .inr ⟨_, rfl, rfl, Nat.sub_add_cancel hpos, rfl, rfl, rfl, rfl, fun _ => trivial,
      fun _ => id, nofun⟩
  | answered _ hans =>
    exact .inr ⟨_, rfl, rfl, rfl, rfl, rfl, rfl, rfl, nofun, fun _ _ => trivial,
      fun hr => by cases hr; exact hans⟩
  | start | full | closed | refuse =>
    exact .inr ⟨_, rfl, rfl, rfl, rfl, rfl, rfl, rfl, fun _ => trivial, fun _ => id, nofun⟩
  | invalid | unsupported | exhausted | giveBack =>
    exact .inr ⟨_, rfl, rfl, rfl, rfl, rfl, rfl, rfl, fun _ => trivial, fun _ _ => trivial, nofun⟩
  | mismatch | dropAdmitted | unanswered | dropResponse | terminal =>
    exact .inr ⟨_, rfl, rfl, rfl, rfl, rfl, rfl, rfl, nofun, fun _ _ => trivial, nofun⟩

/-! ## The steps of the writer -/

/-- Taken from the queue, not yet passed to the sink. -/
def WriterLoc.upcoming : WriterLoc → List OutboundCommand
  | .sendStart command => [command]
  | _ => []

/-- Passed to the sink, and its sink send has not succeeded. -/
def WriterLoc.unfinished : WriterLoc → List OutboundCommand
  | .send command | .failAnswer _ command => [command]
  | .fail _ command | .failSignal _ command | .leave command => command.toList
  | _ => []

/-- No application message and no Close frame is passed to the sink from here on. -/
def WriterLoc.isSealed : WriterLoc → Bool
  | .unstarted | .select | .events | .onShutdown | .flushStart | .flush | .sendStart _ | .send _
  | .answer _ | .release _ => false
  | _ => true

/-- What a step of the writer from a location does to the outbound side and to the history. -/
inductive WriterMove (s : St) : WriterLoc → St → Prop
  /-- The head of the queue is taken. -/
  | take (command : OutboundCommand) (channel : Mpsc OutboundCommand)
      (hqueue : s.outbound.channel.queue = command :: channel.queue)
      (hclosed : channel.closed = s.outbound.channel.closed)
      (hload : channel.load = s.outbound.channel.load) :
      WriterMove s .events { s.writerAt (.sendStart command) with outbound.channel := channel }
  /-- The command is passed to the sink. -/
  | pass (command : OutboundCommand) : WriterMove s (.sendStart command)
      { s.writerAt (.send command) with hist.passed := s.hist.passed ++ [command] }
  /-- Its sink send succeeds. -/
  | succeed (command : OutboundCommand) : WriterMove s (.send command)
      { s.writerAt (.answer command) with hist.succeeded := s.hist.succeeded ++ [command] }
  | answer (command : OutboundCommand) : WriterMove s (.answer command)
      { s.writerAt (.release command) with
        outbound := s.outbound.respond command.id (.answered (.ok ())) }
  | release (command : OutboundCommand) : WriterMove s (.release command)
      { s.writerAt .select with outbound.budget := s.outbound.budget + command.permit }
  | refuse (terminal : DriverError) (command : OutboundCommand) :
      WriterMove s (.failAnswer terminal command)
        { s.writerAt (.leave (some command)) with
          outbound := s.outbound.respond command.id (.answered (.error terminal)) }
  /-- The Close frame is passed to the sink. -/
  | frame (hsignal : s.cells.shutdown.value = .localClose) : WriterMove s .onShutdown
      { s.writerAt .closeSend with hist.closeFrames := s.hist.closeFrames + 1 }
  /-- The task ends. -/
  | gone (loc : WriterLoc) : WriterMove s loc (dropWriter s)
  /-- Anything else. -/
  | quiet (loc : WriterLoc) (s' : St) (hhist : s'.hist = s.hist) (hout : s'.outbound = s.outbound)
      (hflight : s'.writer.loc.inFlight = loc.inFlight)
      (hup : s'.writer.loc.upcoming = loc.upcoming)
      (hun : s'.writer.loc.unfinished = loc.unfinished)
      (hanswer : ∀ c, s'.writer.loc ≠ .answer c) (hrelease : ∀ c, s'.writer.loc ≠ .release c)
      (hdone : s'.writer.loc.isDone = loc.isDone)
      (hsealed : loc.isSealed = true → s'.writer.loc.isSealed = true)
      (hacted : loc = .onShutdown → s.cells.shutdown.value ≠ .running →
        s'.writer.loc.isSealed = true) : WriterMove s loc s'

theorem writerStep_move {loc : WriterLoc} {a : WriterAct} (h : writerStep s loc a = some s') :
    WriterMove s loc s' := by
  cases writerStep_rule h with
  | takeCommand command channel hrecv =>
    obtain ⟨hq, -, hcl⟩ := Mpsc.recv_some hrecv
    exact .take _ _ hq hcl (Mpsc.load_recv hrecv)
  | sendStart => exact .pass _
  | sent => exact .succeed _
  | answer => exact .answer _
  | release => exact .release _
  | failAnswer => exact .refuse _ _
  | leave | kill => exact .gone _
  | localClose hsignal => exact .frame hsignal
  | running hrun => exact .quiet _ _ rfl rfl rfl rfl rfl nofun nofun rfl nofun fun _ h => absurd hrun h
  | aborted | peerClose => exact .quiet _ _ rfl rfl rfl rfl rfl nofun nofun rfl nofun fun _ _ => rfl
  | unstarted | selectChanged | select | eventsChanged | takeFlush | readerGone | driverGone | flushStart
  | flushed | flushFailed | sendFailed =>
    exact .quiet _ _ rfl rfl rfl rfl rfl nofun nofun rfl nofun nofun
  -- the others come after the seal
  | _ => exact .quiet _ _ rfl rfl rfl rfl rfl nofun nofun rfl (fun _ => rfl) nofun

/-- What a step of the writer does to the commands it can see: nothing (taking one from the queue
included), the end of the command in flight, or the end of all of them. -/
def HeldMove (s s' : St) : Prop :=
  s'.held = s.held ∧ s'.outbound.budget = s.outbound.budget ∨
    (∃ c, s.writer.loc = .release c ∧ s.held = c :: s'.held ∧
      s'.outbound.budget = s.outbound.budget + c.permit) ∨
    s' = dropWriter s ∧ s'.held = [] ∧
      s'.outbound.budget = s.outbound.budget + Pool.weigh OutboundCommand.permit s.held

theorem WriterMove.held {loc : WriterLoc} (hloc : s.writer.loc = loc) (m : WriterMove s loc s') :
    HeldMove s s' ∧ s'.outbound.channel.load = s.outbound.channel.load := by
  have hkeep : ∀ {t : St}, t.writer.loc.inFlight = loc.inFlight →
      t.outbound.channel.queue = s.outbound.channel.queue → t.held = s.held := by
    intro t hl hq
    simp only [St.held, hl, hq, hloc]
  cases m with
  | take c channel hq hcl hload =>
    refine ⟨.inl ⟨?_, rfl⟩, hload⟩
    simp [St.held, hq, hloc, WriterLoc.inFlight, St.writerAt]
  | release c =>
    exact ⟨.inr (.inl ⟨c, hloc, by simp [St.held, hloc, WriterLoc.inFlight, St.writerAt], rfl⟩), rfl⟩
  | gone => exact ⟨.inr (.inr ⟨rfl, rfl, rfl⟩), rfl⟩
  | quiet loc s' hhist hout hflight =>
    exact ⟨.inl ⟨hkeep hflight (by rw [hout]), by rw [hout]⟩, by rw [hout]⟩
  | pass | succeed | answer | refuse | frame => exact ⟨.inl ⟨hkeep rfl rfl, rfl⟩, rfl⟩

/-! ## The account -/

structure Account (config : ConnectionConfig) (s : St) : Prop where
  bytes : s.outbound.budget + Pool.weigh SendLoc.bytes s.sends +
    Pool.weigh OutboundCommand.permit s.held = config.maxBufferedBytes
  slots : s.outbound.channel.load + Pool.weigh SendLoc.slots s.sends = config.maxQueue
  /-- Commands hold as many permits as their message has bytes. -/
  sizes : ∀ c ∈ s.held, c.permit = c.message.len

theorem account_start (config : ConnectionConfig) : Account config (start config) := ⟨rfl, rfl, nofun⟩

/-- A step of a process that neither sends nor writes. -/
theorem Account.of_eq (h : Account config s) (hw : s'.writer = s.writer) (hs : s'.sends = s.sends)
    (ho : s'.outbound = s.outbound) : Account config s' := by
  have hheld : s'.held = s.held := by simp only [St.held, hw, ho]
  exact ⟨by rw [ho, hs, hheld]; exact h.bytes, by rw [ho, hs]; exact h.slots, hheld ▸ h.sizes⟩

theorem account_writer {a : WriterAct} (h : Account config s)
    (hst : writerStep s s.writer.loc a = some s') : Account config s' := by
  have f := writerStep_frame hst
  obtain ⟨hheld, hload⟩ := (writerStep_move hst).held rfl
  have hbytes := h.bytes
  have hslots := h.slots
  rcases hheld with ⟨hh, hb⟩ | ⟨c, -, hh, hb⟩ | ⟨-, hh, hb⟩
  · exact ⟨by rw [f.sends, hh, hb]; exact hbytes, by rw [f.sends, hload]; exact hslots, hh ▸ h.sizes⟩
  · refine ⟨?_, by rw [f.sends, hload]; exact hslots, fun x hx => h.sizes x (hh ▸ .tail c hx)⟩
    rw [hh, Pool.weigh_cons] at hbytes
    rw [f.sends]; omega
  · refine ⟨?_, by rw [f.sends, hload]; exact hslots, fun x hx => by rw [hh] at hx; cases hx⟩
    rw [hh, f.sends, Pool.weigh_nil]; omega

theorem account_send {i : Nat} {loc : SendLoc} {a : SendAct} (h : Account config s)
    (hloc : s.sends[i]? = some loc) (hst : sendStep config s i loc a = some s') : Account config s' := by
  have f := sendStep_frame hst
  have hbytes := h.bytes
  have hslots := h.slots
  rcases sendStep_move hst with ⟨m, -, rfl, rfl⟩ | ⟨loc', hset, q⟩
  · -- the permits of the admission move into the command
    have hb := Pool.weigh_set (f := SendLoc.bytes) hloc .response
    have hn := Pool.weigh_set (f := SendLoc.slots) hloc .response
    have hheld : (handOver s i m).held = s.held ++ [⟨i, m, m.len⟩] := by
      simp [St.held, handOver, Mpsc.push, St.sendAt]
    refine ⟨?_, ?_, ?_⟩
    · rw [hheld, Pool.weigh_append]
      simp only [handOver, St.sendAt, Outbound.respond, Pool.weigh_cons, Pool.weigh_nil,
        SendLoc.bytes] at hb ⊢
      omega
    · simp only [handOver, St.sendAt, Mpsc.load_push, SendLoc.slots] at hn ⊢
      omega
    · rw [hheld]
      exact Pool.forall_snoc h.sizes rfl
  · have hb := Pool.weigh_set (f := SendLoc.bytes) hloc loc'
    have hn := Pool.weigh_set (f := SendLoc.slots) hloc loc'
    have hqb := q.bytes
    have hqf := q.free
    have hheld : s'.held = s.held := by simp only [St.held, f.writer, q.queue]
    refine ⟨?_, ?_, hheld ▸ h.sizes⟩
    · rw [hset, hheld]; omega
    · rw [hset]
      simp only [Mpsc.load, q.queue] at hslots ⊢
      omega

theorem account_step (h : Account config s) (hst : step config s l = some s') : Account config s' := by
  cases step_move hst with
  | reader f | control f | receive f => exact h.of_eq f.writer f.sends f.outbound
  | writer _ hst => exact account_writer h hst
  | send _ hloc hst => exact account_send h hloc hst
  | callAdmit =>
    refine ⟨?_, ?_, h.sizes⟩
    · rw [Pool.weigh_append]; exact h.bytes
    · rw [Pool.weigh_append]; exact h.slots
  | callReceive | dropDriver => exact h.of_eq rfl rfl rfl
  | dropFields =>
    have hbytes := h.bytes
    have hslots := h.slots
    cases hcl : s.outbound.channel.closed with
    | false => simp only [dropFields, hcl]; exact h.of_eq rfl rfl rfl
    | true =>
      -- the commands stranded in the channel are dropped with it
      simp only [dropFields, hcl, if_true]
      refine ⟨?_, hslots, fun c hc => h.sizes c ?_⟩
      · have hsum : (s.outbound.channel.queue.map fun c => c.permit).sum =
            Pool.weigh OutboundCommand.permit s.outbound.channel.queue := rfl
        simp only [St.held, Pool.weigh_append, Mpsc.dropReceiver, Outbound.discard, Pool.weigh_nil,
          hsum] at hbytes ⊢
        omega
      · simp only [St.held, Mpsc.dropReceiver, List.append_nil] at hc ⊢
        exact List.mem_append_left _ hc

theorem account_reachable (h : Reachable config s) : Account config s :=
  h.invariant (account_start config) fun _ _ _ => account_step

/-! ## What one call takes -/

/-- The steps of send `i`. -/
def Label.ofSend (i : Nat) : Label → Bool
  | .send j _ => j == i
  | _ => false

/-- Where send `i` stands; a call that has not been made is at its start. -/
def St.sendLoc (s : St) (i : Nat) : SendLoc := s.sends[i]?.getD (.start 0)

theorem St.sendLoc_of_get {i : Nat} {loc : SendLoc} (h : s.sends[i]? = some loc) : s.sendLoc i = loc := by
  rw [St.sendLoc, h, Option.getD_some]

/-- A step of another process leaves send `i` where it stands, or starts it. -/
theorem sendLoc_other {i : Nat} (hl : l.ofSend i = false) (hst : step config s l = some s') :
    s'.sends[i]? = s.sends[i]? ∨ s.sends[i]? = none ∧ ∃ n, s'.sends[i]? = some (.start n) := by
  have hsame : s'.sends = s.sends →
      s'.sends[i]? = s.sends[i]? ∨ s.sends[i]? = none ∧ ∃ n, s'.sends[i]? = some (.start n) :=
    fun hs => .inl (by rw [hs])
  cases step_move hst with
  | reader f | writer f | control f | receive f => exact hsame f.sends
  | send _ _ hst =>
    have hji := by simpa [Label.ofSend] using hl
    rcases sendStep_move hst with ⟨m, -, -, rfl⟩ | ⟨loc', hset, -⟩
    · exact .inl (List.getElem?_set_ne hji)
    · exact .inl (by rw [hset, List.getElem?_set_ne hji])
  | callAdmit n =>
    rcases Nat.lt_trichotomy i s.sends.length with hi | rfl | hi
    · exact .inl (List.getElem?_append_left hi)
    · exact .inr ⟨List.getElem?_eq_none (Nat.le_refl _), n, by simp⟩
    · have hi' : (s.sends ++ [SendLoc.start n]).length ≤ i := by rw [List.length_append]; exact hi
      exact .inl (by rw [List.getElem?_eq_none (Nat.le_of_lt hi), List.getElem?_eq_none hi'])
  | callReceive | dropDriver | dropFields => exact hsame rfl

/-- A step of send `i` is one of `sendStep` from where it stands. -/
theorem step_own {i : Nat} {loc : SendLoc} (hl : l.ofSend i = true) (hloc : s.sends[i]? = some loc)
    (hst : step config s l = some s') : ∃ a, l = .send i a ∧ sendStep config s i loc a = some s' := by
  cases l with
  | send j a =>
    obtain rfl : j = i := by simpa [Label.ofSend] using hl
    obtain ⟨loc₁, hloc₁, hst⟩ := Option.bind_eq_some_iff.mp hst
    obtain rfl := Option.some.inj (hloc.symm.trans hloc₁)
    exact ⟨a, rfl, hst⟩
  | _ => cases hl

/-- A step of send `i` itself. -/
theorem sendLoc_own {i : Nat} (hl : l.ofSend i = true) (hst : step config s l = some s') :
    ∃ loc, s.sends[i]? = some loc ∧
      (s'.sends[i]? = some .response ∨ ∃ loc', s'.sends[i]? = some loc' ∧ SendQuiet s s' i loc loc') := by
  cases l with
  | send j a =>
    obtain rfl : j = i := by simpa [Label.ofSend] using hl
    obtain ⟨loc, hloc, hst⟩ := Option.bind_eq_some_iff.mp hst
    have hj := (List.getElem?_eq_some_iff.mp hloc).1
    refine ⟨loc, hloc, ?_⟩
    rcases sendStep_move hst with ⟨m, -, -, rfl⟩ | ⟨loc', hset, q⟩
    · exact .inl (by simp [handOver, St.sendAt, hj])
    · exact .inr ⟨loc', by simp [hset, hj], q⟩
  | _ => cases hl

/-- What send `i` has added to the free byte permits, and to the free slots, along a run. -/
def bytesShare (config : ConnectionConfig) (i : Nat) : St → List Label → Int :=
  Lts.share (step config) (Label.ofSend i) fun s => s.outbound.budget

def slotsShare (config : ConnectionConfig) (i : Nat) : St → List Label → Int :=
  Lts.share (step config) (Label.ofSend i) fun s => s.outbound.channel.free

/-- **The account of one call.** Until its admission is used, a call has taken from the two counters
exactly what it holds. -/
theorem share_of_admitting {i : Nat} {ls : List Label} (h : Lts.run (step config) s ls = some s')
    (hloc : (s'.sendLoc i).Admitting) :
    bytesShare config i s ls = ((s.sendLoc i).bytes - (s'.sendLoc i).bytes : Int) ∧
      slotsShare config i s ls = ((s.sendLoc i).slots - (s'.sendLoc i).slots : Int) := by
  have hstep : ∀ s l t, step config s l = some t → (t.sendLoc i).Admitting → (s.sendLoc i).Admitting ∧
      (l.ofSend i = true →
        t.outbound.budget + (t.sendLoc i).bytes = s.outbound.budget + (s.sendLoc i).bytes ∧
        t.outbound.channel.free + (t.sendLoc i).slots = s.outbound.channel.free + (s.sendLoc i).slots) ∧
      (l.ofSend i = false →
        (t.sendLoc i).bytes = (s.sendLoc i).bytes ∧ (t.sendLoc i).slots = (s.sendLoc i).slots) := by
    intro s l t hst hadm
    cases hl : l.ofSend i with
    | true =>
      obtain ⟨loc, hloc, hr | ⟨loc', hloc', q⟩⟩ := sendLoc_own hl hst
      · rw [St.sendLoc_of_get hr] at hadm; cases hadm
      · rw [St.sendLoc_of_get hloc'] at hadm ⊢
        rw [St.sendLoc_of_get hloc]
        exact ⟨q.admitting hadm, fun _ => ⟨q.bytes, q.free⟩, nofun⟩
    | false =>
      rcases sendLoc_other hl hst with heq | ⟨hn, n, hs⟩
      · have hsame : t.sendLoc i = s.sendLoc i := by simp only [St.sendLoc, heq]
        exact ⟨hsame ▸ hadm, nofun, fun _ => by rw [hsame]; exact ⟨rfl, rfl⟩⟩
      · have hnew : s.sendLoc i = .start 0 := by simp only [St.sendLoc, hn, Option.getD_none]
        rw [St.sendLoc_of_get hs, hnew]
        exact ⟨trivial, nofun, fun _ => ⟨rfl, rfl⟩⟩
  constructor
  · obtain ⟨-, hshare⟩ : _ ∧ bytesShare config i s ls = _ :=
      Lts.share_eq (fun s => -((s.sendLoc i).bytes : Int)) (fun s l t hst hadm => by
        obtain ⟨h1, h2, h3⟩ := hstep s l t hst hadm
        exact ⟨h1, fun hm => by have := (h2 hm).1; omega, fun hm => by rw [(h3 hm).1]⟩) h hloc
    rw [hshare]; omega
  · obtain ⟨-, hshare⟩ : _ ∧ slotsShare config i s ls = _ :=
      Lts.share_eq (fun s => -((s.sendLoc i).slots : Int)) (fun s l t hst hadm => by
        obtain ⟨h1, h2, h3⟩ := hstep s l t hst hadm
        exact ⟨h1, fun hm => by have := (h2 hm).2; omega, fun hm => by rw [(h3 hm).2]⟩) h hloc
    rw [hshare]; omega

/-- A call stays about the size it was made with. -/
theorem sized_run {i n : Nat} {ls : List Label} (h : Lts.run (step config) s ls = some s')
    (hs : ∃ loc, s.sends[i]? = some loc ∧ loc.Sized n) : ∃ loc, s'.sends[i]? = some loc ∧ loc.Sized n := by
  refine (Lts.path_of_run h).invariant (P := fun s => ∃ loc, s.sends[i]? = some loc ∧ loc.Sized n) ?_ hs
  rintro s l t ⟨loc, hloc, hn⟩ - hst
  cases hl : l.ofSend i with
  | true =>
    obtain ⟨loc₁, hloc₁, hr | ⟨loc', hloc', q⟩⟩ := sendLoc_own hl hst
    · exact ⟨.response, hr, trivial⟩
    · obtain rfl : loc = loc₁ := by simpa [hloc] using hloc₁
      exact ⟨loc', hloc', q.sized n hn⟩
  | false =>
    rcases sendLoc_other hl hst with heq | ⟨hno, -⟩
    · exact ⟨loc, heq.trans hloc, hn⟩
    · rw [hloc] at hno; cases hno

/-! ## The result -/

structure BudgetConserved (config : ConnectionConfig) (s : St) : Prop where
  /-- Every byte permit is free, with a call, or with a command that is queued or in flight. -/
  bytes : s.outbound.budget + Pool.weigh SendLoc.bytes s.sends +
    (s.outbound.channel.queue.map (·.message.len)).sum +
    (s.writer.loc.inFlight.toList.map (·.message.len)).sum = config.maxBufferedBytes
  /-- Every slot is free, with an admission, or filled. -/
  slots : s.outbound.channel.free + Pool.weigh SendLoc.slots s.sends + s.outbound.channel.queue.length =
    config.maxQueue
  /-- One further message may be in flight. -/
  items : Pool.weigh SendLoc.slots s.sends + s.outbound.channel.queue.length +
    s.writer.loc.inFlight.toList.length ≤ config.maxQueue + 1
  /-- A refused call has changed neither counter. -/
  refused : ∀ i size ls s' why e, s.sends[i]? = some (.start size) →
    Lts.run (step config) s ls = some s' → s'.sends[i]? = some (.refused why e) →
      bytesShare config i s ls = 0 ∧ slotsShare config i s ls = 0
  /-- An admitted call has taken the bytes of its message and one slot. -/
  admitted : ∀ i (size : Nat) ls s' (n : Nat), s.sends[i]? = some (.start size) →
    Lts.run (step config) s ls = some s' → s'.sends[i]? = some (.admitted n) →
      n = size ∧ bytesShare config i s ls = -size ∧ slotsShare config i s ls = -1

theorem budget_conserved (h : Reachable config s) : BudgetConserved config s := by
  have ha := account_reachable h
  have hbytes := ha.bytes
  have hslots := ha.slots
  have hsum : ∀ cs : List OutboundCommand, (∀ c ∈ cs, c.permit = c.message.len) →
      (cs.map (·.message.len)).sum = Pool.weigh OutboundCommand.permit cs := by
    intro cs hcs
    rw [Pool.weigh, List.map_congr_left fun c hc => (hcs c hc).symm]
  constructor
  · rw [hsum _ fun c hc => ha.sizes c (List.mem_append_right _ hc),
      hsum _ fun c hc => ha.sizes c (List.mem_append_left _ hc)]
    simp only [St.held, Pool.weigh_append] at hbytes
    omega
  · simp only [Mpsc.load] at hslots; omega
  · have : s.writer.loc.inFlight.toList.length ≤ 1 := by
      cases s.writer.loc.inFlight <;> simp
    simp only [Mpsc.load] at hslots; omega
  · intro i size ls s' why e hs hrun hs'
    have hr := share_of_admitting (i := i) hrun (by rw [St.sendLoc_of_get hs']; trivial)
    rw [St.sendLoc_of_get hs, St.sendLoc_of_get hs'] at hr
    exact hr
  · intro i size ls s' n hs hrun hs'
    have hr := share_of_admitting (i := i) hrun (by rw [St.sendLoc_of_get hs']; trivial)
    rw [St.sendLoc_of_get hs, St.sendLoc_of_get hs'] at hr
    obtain ⟨loc, hloc, hn⟩ := sized_run hrun ⟨_, hs, rfl⟩
    obtain rfl : loc = .admitted n := by simpa [hs'] using hloc.symm
    obtain rfl : n = size := hn
    simpa [SendLoc.bytes, SendLoc.slots] using hr

/-- One message is admitted and handed over, then the item queue is full for the next. -/
def fullQueueRun : List Label :=
  [.callAdmit 2, .send 0 .next, .send 0 .next, .send 0 .next, .send 0 (.handOver (.binary [1, 2])),
    .callAdmit 1, .send 1 .next, .send 1 .next, .send 1 .next, .send 1 .next]

theorem budget_conserved_fullQueue :
    BudgetConserved .tiny (Lts.after (step .tiny) (start .tiny) fullQueueRun) ∧
      (Lts.after (step .tiny) (start .tiny) fullQueueRun).outbound.budget = 2 :=
  ⟨budget_conserved (Lts.reachable_after rfl), rfl⟩

end FogWS
