import FogWS.Outbound
/-!
# The write buffer

The WebSocket library keeps what it has framed and the socket has not taken in one buffer. Reading a Ping
puts the Pong there; a sink send puts the message there, and then flushes. `websocket_config`
(config.rs:79) bounds the buffer by the larger of an application frame and a control frame, not by both:
a message that is admitted may find its place taken by Pongs, and the send is refused for good.

| here | there |
| --- | --- |
| `Wire` | the driver with the library's write buffer |
| `place` | a frame is refused exactly when it does not fit beside what is buffered |
| `unsent` | the bytes of Pongs that the socket has not taken, counted from outside |
| `room` | what the limits leave beside one message |

The Close frame is not followed: no application message comes after it.
-/
namespace FogWS

structure Wire where
  driver : St
  /-- Bytes that are framed and that the socket has not taken. -/
  buffered : Nat
  /-- A sink send of an application message has been refused for lack of space. -/
  refused : Bool

inductive WireLabel where
  /-- A step of the driver, other than the reading of a Ping. -/
  | driver (l : Label)
  /-- The reader is given a Ping, and the library puts the Pong into the buffer, or not. -/
  | ping (payload : List UInt8) (answered : Bool)
  /-- The socket takes `n` bytes. -/
  | drain (n : Nat)

/-- Put a frame of `n` bytes into the buffer, if it fits. -/
def place (config : ConnectionConfig) (buffered n : Nat) : Option Nat :=
  if buffered + n ≤ config.websocketConfig.maxWriteBufferSize then some (buffered + n) else none

section Wire

variable (config : ConnectionConfig) (header : Nat → Nat)

/-- The length of the frame of a payload of `n` bytes. -/
def frameLen (n : Nat) : Nat := header n + n

/-- The sink send of a command, at its start. -/
def Wire.send (w : Wire) (c : OutboundCommand) (s : St) : Wire :=
  match place config w.buffered (frameLen header c.message.len) with
  | some buffered => { w with driver := s, buffered := buffered }
  | none => { w with driver := s, refused := true }

def wireStep (w : Wire) : WireLabel → Option Wire
  | .driver l => (step config w.driver l).bind fun s =>
    match l, w.driver.writer.loc with
    | .reader (.item (some (.ok (.ping _)))), _ => none
    | .writer .next, .sendStart c => some (w.send config header c s)
    -- a flush is over once the buffer is empty; a refused send does not get there
    | .writer .sinkOk, _ => if w.buffered = 0 ∧ w.refused = false then some { w with driver := s } else none
    | _, _ => some { w with driver := s }
  | .ping payload answered =>
    if config.readsControl payload.length then
      (step config w.driver (.reader (.item (some (.ok (.ping payload)))))).bind fun s =>
        if answered then
          (place config w.buffered (frameLen header payload.length)).map fun buffered =>
            { w with driver := s, buffered := buffered }
        else some { w with driver := s }
    else none
  | .drain n => if n ≤ w.buffered then some { w with buffered := w.buffered - n } else none

/-! ## The condition -/

/-- The bytes of Pongs that the socket has not taken, from the Pings that are answered, the bytes it takes
and the flushes that end. -/
def unsent (u : Nat) (_ : Wire) : WireLabel → Nat
  | .ping payload true => u + frameLen header payload.length
  | .drain n => u - n
  | .driver (.writer .sinkOk) => 0
  | _ => u

/-- The write buffer with the count of `unsent` beside it. -/
abbrev countedStep : Wire × Nat → WireLabel → Option (Wire × Nat) :=
  Lts.observe (wireStep config header) (unsent header)

/-- What the limits leave beside a message of `n` bytes: of the larger budget, and of the header. -/
def room (n : Nat) : Nat :=
  (max config.maxBufferedBytes maxControlPayloadBytes - n) + (maxFrameHeaderBytes - header n)

/-- When the writer starts the sink send of a message, the Pongs unsent are at most its room. -/
def PongsFit (wu : Wire × Nat) (l : WireLabel) : Prop :=
  l = .driver (.writer .next) → ∀ c, wu.1.driver.writer.loc = .sendStart c →
    wu.2 ≤ room config header c.message.len

end Wire

def Wire.start (config : ConnectionConfig) : Wire := ⟨FogWS.start config, 0, false⟩

/-- The writer is between two flushes: nothing of an application message is buffered. -/
def WriterLoc.flushed : WriterLoc → Bool
  | .unstarted | .select | .events | .onShutdown | .flushStart | .flush | .sendStart _ | .answer _
  | .release _ => true
  | _ => false

/-- Between two flushes nothing has been refused, and what is buffered is the Pongs unsent. -/
structure Flushed (wu : Wire × Nat) : Prop where
  accepted : wu.1.driver.writer.loc.flushed = true → wu.1.refused = false
  pongs : wu.1.driver.writer.loc.flushed = true → wu.1.buffered = wu.2

theorem flushed_start (config : ConnectionConfig) : Flushed (.start config, 0) :=
  ⟨fun _ => rfl, fun _ => rfl⟩

variable {config : ConnectionConfig} {header : Nat → Nat} {w w' : Wire} {wu wu' : Wire × Nat} {l : WireLabel}

/-! ## The steps -/

theorem place_eq_some {buffered n b : Nat} (h : place config buffered n = some b) : b = buffered + n := by
  unfold place at h
  split at h <;> cases h
  rfl

/-- Every step of the driver with its buffer. -/
inductive WireRule (config : ConnectionConfig) (header : Nat → Nat) (w : Wire) : WireLabel → Wire → Prop
  | send (c : OutboundCommand) (s : St) (hloc : w.driver.writer.loc = .sendStart c)
      (h : step config w.driver (.writer .next) = some s) :
      WireRule config header w (.driver (.writer .next)) (w.send config header c s)
  | flushed (s : St) (h : step config w.driver (.writer .sinkOk) = some s) (hb : w.buffered = 0)
      (hr : w.refused = false) : WireRule config header w (.driver (.writer .sinkOk)) { w with driver := s }
  | quiet (l : Label) (s : St) (h : step config w.driver l = some s) (hok : l ≠ .writer .sinkOk)
      (hsend : l = .writer .next → ∀ c, w.driver.writer.loc ≠ .sendStart c) :
      WireRule config header w (.driver l) { w with driver := s }
  | unanswered (payload : List UInt8) (s : St)
      (h : step config w.driver (.reader (.item (some (.ok (.ping payload))))) = some s) :
      WireRule config header w (.ping payload false) { w with driver := s }
  | answered (payload : List UInt8) (s : St)
      (h : step config w.driver (.reader (.item (some (.ok (.ping payload))))) = some s) :
      WireRule config header w (.ping payload true)
        { w with driver := s, buffered := w.buffered + frameLen header payload.length }
  | drain (n : Nat) (h : n ≤ w.buffered) :
      WireRule config header w (.drain n) { w with buffered := w.buffered - n }

theorem wireStep_rule (h : wireStep config header w l = some w') : WireRule config header w l w' := by
  cases l with
  | driver l =>
    rw [wireStep, Option.bind_eq_some_iff] at h
    obtain ⟨s, hst, h⟩ := h
    split at h
    · cases h
    · rename_i c hloc
      cases h; exact .send c s hloc hst
    · split at h
      · rename_i hb
        cases h; exact .flushed s hst hb.1 hb.2
      · cases h
    · rename_i hok hsend
      cases h; exact .quiet _ s hst hok fun hl c => hsend c hl
  | ping payload answered =>
    obtain ⟨-, h⟩ := Option.ite_none_right_eq_some.mp h
    obtain ⟨s, hst, h⟩ := Option.bind_eq_some_iff.mp h
    cases answered with
    | false => cases h; exact .unanswered payload s hst
    | true =>
      obtain ⟨b, hb, rfl⟩ := Option.map_eq_some_iff.mp h
      rw [place_eq_some hb]
      exact .answered payload s hst
  | drain n =>
    obtain ⟨hn, h⟩ := Option.ite_none_right_eq_some.mp h
    cases h; exact .drain n hn

theorem Wire.send_driver (w : Wire) (c : OutboundCommand) (s : St) :
    (w.send config header c s).driver = s := by
  unfold Wire.send
  split <;> rfl

/-- The driver of a wire moves as a driver does. -/
theorem wireStep_reachable (hr : Reachable config w.driver) (h : wireStep config header w l = some w') :
    Reachable config w'.driver := by
  cases wireStep_rule h with
  | send c s _ hst => rw [Wire.send_driver]; exact hr.next hst
  | flushed _ hst | quiet _ _ hst | unanswered _ _ hst | answered _ _ hst => exact hr.next hst
  | drain => exact hr

/-- Unless a flush ends there, a step that leaves the writer between two flushes found it there, and was
not the start of a sink send. -/
theorem writerStep_flushed {s s' : St} {loc : WriterLoc} {a : WriterAct} (h : writerStep s loc a = some s')
    (hf : s'.writer.loc.flushed = true) :
    a = .sinkOk ∨ loc.flushed = true ∧ ∀ c, loc ≠ .sendStart c := by
  cases writerStep_rule h with
  | flushed | sent | closeSent | closeFlushed => exact .inl rfl
  | unstarted | selectChanged | select | eventsChanged | running | takeFlush | takeCommand | flushStart
  | answer | release => exact .inr ⟨rfl, by rintro _ ⟨⟩⟩
  | _ => cases hf

theorem step_flushed {s s' : St} {l : Label} (hst : step config s l = some s') (hok : l ≠ .writer .sinkOk)
    (hf : s'.writer.loc.flushed = true) : s.writer.loc.flushed = true := by
  by_cases hw : ∃ a, l = .writer a
  · obtain ⟨a, rfl⟩ := hw
    rcases writerStep_flushed hst hf with rfl | ⟨hfl, -⟩
    · exact absurd rfl hok
    · exact hfl
  · rw [step_writer_eq (fun a ha => hw ⟨a, ha⟩) hst] at hf
    exact hf

/-! ## The Pongs are all there is -/

/-- The step that starts a sink send leaves the writer there. -/
theorem sending_of_start {s s' : St} {c : OutboundCommand} (hloc : s.writer.loc = .sendStart c)
    (h : step config s (.writer .next) = some s') : s'.writer.loc.flushed = false := by
  simp only [step, hloc, writerStep, Option.some.injEq] at h
  subst h; rfl

/-- Only the end of a flush is counted of what the driver does. -/
theorem unsent_driver {u : Nat} {l : Label} (hok : l ≠ .writer .sinkOk) :
    unsent header u w (.driver l) = u := by
  unfold unsent
  split
  · rename_i h; cases h
  · rename_i h; cases h
  · rename_i h; cases h; exact absurd rfl hok
  · rfl

theorem flushed_step (hf : Flushed wu) (h : countedStep config header wu l = some wu') : Flushed wu' := by
  obtain ⟨hw, hcount⟩ := Lts.observe_eq_some h
  obtain ⟨w, u⟩ := wu
  obtain ⟨w', u'⟩ := wu'
  dsimp only at hw hcount
  subst hcount
  cases wireStep_rule hw with
  | send c s hloc hst =>
    have hno := sending_of_start hloc hst
    rw [← @Wire.send_driver config header w c s] at hno
    exact ⟨fun hx => absurd hx (by simp [hno]), fun hx => absurd hx (by simp [hno])⟩
  | flushed _ _ hb hr => exact ⟨fun _ => hr, fun _ => hb⟩
  | quiet l _ hst hok =>
    have hkeep := fun hx => step_flushed hst hok hx
    refine ⟨fun hx => hf.accepted (hkeep hx), fun hx => ?_⟩
    rw [unsent_driver hok]
    exact hf.pongs (hkeep hx)
  | unanswered _ _ hst =>
    have hkeep := fun hx => step_flushed hst (by rintro ⟨⟩) hx
    exact ⟨fun hx => hf.accepted (hkeep hx), fun hx => hf.pongs (hkeep hx)⟩
  | answered payload _ hst =>
    have hkeep := fun hx => step_flushed hst (by rintro ⟨⟩) hx
    exact ⟨fun hx => hf.accepted (hkeep hx),
      fun hx => congrArg (· + frameLen header payload.length) (hf.pongs (hkeep hx))⟩
  | drain n => exact ⟨hf.accepted, fun hx => congrArg (· - n) (hf.pongs hx)⟩

/-! ## The limits -/

/-- A message that the writer holds has been admitted: it fits the budget. -/
theorem admitted_le {s : St} (hr : Reachable config s) {c : OutboundCommand}
    (hloc : s.writer.loc = .sendStart c) : c.message.len ≤ config.maxBufferedBytes := by
  have ha := account_reachable hr
  have hmem : c ∈ s.held := by simp [St.held, hloc, WriterLoc.inFlight]
  have hsize := ha.sizes c hmem
  have hle := Pool.weigh_le_of_mem (f := OutboundCommand.permit) hmem
  have hbytes := ha.bytes
  omega

/-- `websocket_config` leaves room for the frame of an admitted message, and `room` beside it. -/
theorem frame_fits_iff (hheader : ∀ n, header n ≤ maxFrameHeaderBytes) {n u : Nat}
    (hn : n ≤ config.maxBufferedBytes) :
    u + frameLen header n ≤ config.websocketConfig.maxWriteBufferSize ↔ u ≤ room config header n := by
  have hhead := hheader n
  have hmax := Nat.le_max_left config.maxBufferedBytes maxControlPayloadBytes
  simp only [frameLen, room, ConnectionConfig.websocketConfig]
  omega

/-- The send of an admitted message is refused exactly when the Pongs unsent take more than its room. -/
theorem send_accepted_iff (hheader : ∀ n, header n ≤ maxFrameHeaderBytes) (hr : Reachable config wu.1.driver)
    (hf : Flushed wu) {c : OutboundCommand} (hloc : wu.1.driver.writer.loc = .sendStart c) (s : St) :
    (wu.1.send config header c s).refused = false ↔ wu.2 ≤ room config header c.message.len := by
  have hfl : wu.1.driver.writer.loc.flushed = true := by rw [hloc]; rfl
  have hacc := hf.accepted hfl
  rw [← frame_fits_iff hheader (admitted_le hr hloc), ← hf.pongs hfl]
  unfold Wire.send place
  by_cases hle : wu.1.buffered + frameLen header c.message.len ≤ config.websocketConfig.maxWriteBufferSize
  · simp [hle, hacc]
  · simp [hle]

/-! ## The exact condition -/

/-- A refusal stays on record. -/
theorem refused_step (hr : w.refused = true) (h : wireStep config header w l = some w') :
    w'.refused = true := by
  cases wireStep_rule h with
  | send =>
    unfold Wire.send
    split
    · exact hr
    · rfl
  | flushed _ _ _ hno => rw [hr] at hno; cases hno
  | quiet | unanswered | answered | drain => exact hr

/-- A step that meets the condition refuses nothing. -/
theorem accepted_step (hheader : ∀ n, header n ≤ maxFrameHeaderBytes) (hreach : Reachable config wu.1.driver)
    (hf : Flushed wu) (hr : wu.1.refused = false) (hok : PongsFit config header wu l)
    (h : wireStep config header wu.1 l = some w') : w'.refused = false := by
  cases wireStep_rule h with
  | send c s hloc => exact (send_accepted_iff hheader hreach hf hloc s).mpr (hok rfl c hloc)
  | flushed | quiet | unanswered | answered | drain => exact hr

/-- What is kept along every run. -/
theorem counted_step (h : countedStep config header wu l = some wu')
    (hwu : Reachable config wu.1.driver ∧ Flushed wu) : Reachable config wu'.1.driver ∧ Flushed wu' :=
  ⟨wireStep_reachable hwu.1 (Lts.observe_eq_some h).1, flushed_step hwu.2 h⟩

/-- **No admitted message is refused for lack of space exactly if each finds the Pongs unsent within the
room that the limits leave beside it.** -/
theorem never_refused_iff (config : ConnectionConfig) (header : Nat → Nat)
    (hheader : ∀ n, header n ≤ maxFrameHeaderBytes) (ls : List WireLabel) (wu : Wire × Nat)
    (h : Lts.run (countedStep config header) (.start config, 0) ls = some wu) :
    wu.1.refused = false ↔
      Lts.Path (countedStep config header) (PongsFit config header) (.start config, 0) ls wu := by
  constructor
  · intro hacc
    refine Lts.path_of_initial h fun as l t t' hp hr hst => ?_
    have ht : Reachable config t.1.driver ∧ Flushed t :=
      (Lts.path_of_run hr).invariant (P := fun t => Reachable config t.1.driver ∧ Flushed t)
        (fun _ _ _ hs _ hst => counted_step hst hs) ⟨.start, flushed_start config⟩
    have hr' : Lts.run (countedStep config header) (.start config, 0) (as ++ [l]) = some t' := by
      rw [Lts.run_append, hr, Option.bind_some, Lts.run_cons, hst]; rfl
    obtain ⟨bs, hbs⟩ := Lts.run_rest h hp hr'
    -- a refusal would still be on record at the end
    have hkept : t'.1.refused = false := by
      by_contra hno
      have hend := (Lts.path_of_run hbs).invariant (P := fun wu => wu.1.refused = true)
        (fun _ _ _ hx _ hst => refused_step hx (Lts.observe_eq_some hst).1) (by simpa using hno)
      rw [hacc] at hend; cases hend
    rintro rfl c hloc
    have hw := (Lts.observe_eq_some hst).1
    generalize t'.1 = w' at hw hkept
    cases wireStep_rule hw with
    | send c' s hloc' =>
      obtain rfl : c = c' := by rw [hloc] at hloc'; cases hloc'; rfl
      exact (send_accepted_iff hheader ht.1 ht.2 hloc s).mp hkept
    | quiet _ _ _ _ hsend => exact absurd hloc (hsend rfl c)
  · intro hpath
    exact (hpath.invariant
      (P := fun wu => (Reachable config wu.1.driver ∧ Flushed wu) ∧ wu.1.refused = false)
      (fun _ _ _ ⟨hs, hx⟩ hok hst => ⟨counted_step hst hs,
        accepted_step hheader hs.1 hs.2 hx hok (Lts.observe_eq_some hst).1⟩)
      ⟨⟨.start, flushed_start config⟩, rfl⟩).2

/-- The header of a client's frame: two bytes, the extended length, the mask. -/
def clientHeader (n : Nat) : Nat := if n ≤ 125 then 6 else if n ≤ 65535 then 8 else 14

theorem clientHeader_le (n : Nat) : clientHeader n ≤ maxFrameHeaderBytes := by
  unfold clientHeader maxFrameHeaderBytes
  split
  · decide
  · split <;> decide

/-- A Ping of the largest size is answered while the socket is not writable; then the writer takes up an
admitted message. -/
def crowdedRun : List WireLabel :=
  [.driver (.reader .next), .driver (.reader .next), .ping (List.replicate 125 0) true,
    .driver (.callAdmit 4), .driver (.send 0 .next), .driver (.send 0 .next), .driver (.send 0 .next),
    .driver (.send 0 (.handOver (.binary [1, 2, 3, 4]))), .driver (.writer .next), .driver (.writer .next),
    .driver (.writer .outbound), .driver (.writer .next)]

/-- The failure that follows ends the connection. -/
def crowdedOutRun : List WireLabel :=
  crowdedRun ++ [.driver (.writer (.sinkErr (.other "Write buffer is full"))), .driver (.writer .next)]

set_option maxRecDepth 2000 in
theorem send_refused_beside_pong :
    ConnectionConfig.new 64 1 125 125 (some 1) = .ok .small ∧
      (∀ n, clientHeader n ≤ maxFrameHeaderBytes) ∧
      (Lts.run (wireStep .small clientHeader) (.start .small) crowdedOutRun).isSome ∧
      (Lts.after (wireStep .small clientHeader) (.start .small) crowdedOutRun).refused = true ∧
      (Lts.after (wireStep .small clientHeader) (.start .small) crowdedOutRun).driver.cells.state.value =
        .closed (.transport "WebSocket send failed: Write buffer is full") :=
  ⟨rfl, clientHeader_le, rfl, rfl, rfl⟩

/-- The socket takes all but eight bytes of the Pong before the send starts. -/
def drainedRun : List WireLabel :=
  [.driver (.reader .next), .driver (.reader .next), .ping (List.replicate 125 0) true,
    .driver (.callAdmit 125), .driver (.send 0 .next), .driver (.send 0 .next), .driver (.send 0 .next),
    .driver (.send 0 (.handOver (.binary (List.replicate 125 7)))), .drain 123, .driver (.writer .next),
    .driver (.writer .next), .driver (.writer .outbound), .driver (.writer .next), .drain 139,
    .driver (.writer .sinkOk)]

set_option maxRecDepth 2000 in
theorem never_refused_iff_drained :
    (Lts.after (countedStep .small clientHeader) (.start .small, 0) drainedRun).1.refused = false ↔
      Lts.Path (countedStep .small clientHeader) (PongsFit .small clientHeader) (.start .small, 0) drainedRun
        (Lts.after (countedStep .small clientHeader) (.start .small, 0) drainedRun) :=
  never_refused_iff .small clientHeader clientHeader_le drainedRun _ (Lts.run_after rfl)

end FogWS
