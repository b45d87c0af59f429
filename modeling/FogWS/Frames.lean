import FogWS.Driver
import FogWS.Rules
/-!
# What a step leaves alone

For every process, the parts of the state that none of its steps touches; and `step_move`, which says
of a step of the system whose it is and what it leaves alone. Both are read off the definitions once,
here: an invariant takes the cases of `Move` and looks at the parts that move.
-/
namespace FogWS

/-- The reader touches the cells, its own location, the inbound side and the control channel. -/
structure ReaderFrame (s s' : St) : Prop where
  writer : s'.writer = s.writer
  watchdogs : s'.watchdogs = s.watchdogs
  closes : s'.closes = s.closes
  aborts : s'.aborts = s.aborts
  sends : s'.sends = s.sends
  receives : s'.receives = s.receives
  driver : s'.driver = s.driver
  outbound : s'.outbound = s.outbound
  receiveActive : s'.inbound.receiveActive = s.inbound.receiveActive
  locked : s'.inbound.locked = s.inbound.locked
  returned : s'.hist.returned = s.hist.returned
  handed : s'.hist.handed = s.hist.handed
  passed : s'.hist.passed = s.hist.passed
  succeeded : s'.hist.succeeded = s.hist.succeeded
  closeFrames : s'.hist.closeFrames = s.hist.closeFrames
  started : s'.cells.closeTimeoutStarted = s.cells.closeTimeoutStarted
  readerAbort : s'.cells.readerAbort = s.cells.readerAbort

/-- The writer touches the cells, its own location, the outbound side and the control channel. -/
structure WriterFrame (s s' : St) : Prop where
  reader : s'.reader = s.reader
  watchdogs : s'.watchdogs = s.watchdogs
  closes : s'.closes = s.closes
  aborts : s'.aborts = s.aborts
  sends : s'.sends = s.sends
  receives : s'.receives = s.receives
  driver : s'.driver = s.driver
  inbound : s'.inbound = s.inbound
  read : s'.hist.read = s.hist.read
  returned : s'.hist.returned = s.hist.returned
  handed : s'.hist.handed = s.hist.handed
  peerClose : s'.hist.peerClose = s.hist.peerClose
  closing : s'.cells.closing = s.cells.closing
  started : s'.cells.closeTimeoutStarted = s.cells.closeTimeoutStarted
  readerAbort : s'.cells.readerAbort = s.cells.readerAbort
  writerAbort : s'.cells.writerAbort = s.cells.writerAbort

/-- A step of `close`, `abort` or a watchdog touches the cells and the tables of these processes. -/
structure ControlFrame (s s' : St) : Prop where
  reader : s'.reader = s.reader
  writer : s'.writer = s.writer
  sends : s'.sends = s.sends
  receives : s'.receives = s.receives
  driver : s'.driver = s.driver
  inbound : s'.inbound = s.inbound
  outbound : s'.outbound = s.outbound
  control : s'.control = s.control
  hist : s'.hist = s.hist

/-- A call of `send` touches its own location and the outbound side. -/
structure SendFrame (s s' : St) : Prop where
  cells : s'.cells = s.cells
  reader : s'.reader = s.reader
  writer : s'.writer = s.writer
  watchdogs : s'.watchdogs = s.watchdogs
  closes : s'.closes = s.closes
  aborts : s'.aborts = s.aborts
  receives : s'.receives = s.receives
  driver : s'.driver = s.driver
  inbound : s'.inbound = s.inbound
  control : s'.control = s.control
  hist : s'.hist = { s.hist with handed := s'.hist.handed }

/-- A call of `receive` touches its own location and the inbound side. -/
structure ReceiveFrame (s s' : St) : Prop where
  cells : s'.cells = s.cells
  reader : s'.reader = s.reader
  writer : s'.writer = s.writer
  watchdogs : s'.watchdogs = s.watchdogs
  closes : s'.closes = s.closes
  aborts : s'.aborts = s.aborts
  sends : s'.sends = s.sends
  driver : s'.driver = s.driver
  outbound : s'.outbound = s.outbound
  control : s'.control = s.control
  hist : s'.hist = { s.hist with returned := s'.hist.returned }

variable {config : ConnectionConfig} {s s' : St}

theorem readerStep_frame {loc : ReaderLoc} {a : ReaderAct} (h : readerStep s loc a = some s') :
    ReaderFrame s s' := by
  cases readerStep_rule h <;> constructor <;> rfl

theorem writerStep_frame {loc : WriterLoc} {a : WriterAct} (h : writerStep s loc a = some s') :
    WriterFrame s s' := by
  cases writerStep_rule h <;> constructor <;> rfl

theorem watchdogStep_frame {i : Nat} {loc : WatchdogLoc} {a : WatchdogAct}
    (h : watchdogStep s i loc a = some s') :
    ControlFrame s s' ∧ s'.closes = s.closes ∧ s'.aborts = s.aborts := by
  cases watchdogStep_rule h <;> exact ⟨by constructor <;> rfl, rfl, rfl⟩

theorem closeStep_frame {i : Nat} {loc : CloseLoc} {a : CallAct}
    (h : closeStep s i loc a = some s') : ControlFrame s s' ∧ s'.aborts = s.aborts := by
  cases closeStep_rule h <;> exact ⟨by constructor <;> rfl, rfl⟩

theorem abortStep_frame {i : Nat} {loc : AbortLoc} (h : abortStep s i loc = some s') :
    ControlFrame s s' ∧ s'.closes = s.closes ∧ s'.watchdogs = s.watchdogs := by
  cases loc <;> cases h <;> exact ⟨by constructor <;> rfl, rfl, rfl⟩

theorem sendStep_frame {i : Nat} {loc : SendLoc} {a : SendAct}
    (h : sendStep config s i loc a = some s') : SendFrame s s' := by
  cases sendStep_rule h <;> constructor <;> rfl

theorem receiveStep_frame {i : Nat} {loc : ReceiveLoc} {a : CallAct}
    (h : receiveStep s i loc a = some s') : ReceiveFrame s s' := by
  cases receiveStep_rule h <;> constructor <;> rfl

/-! ## What a step of the system can be -/

/-- The steps of watchdogs, closes and aborts, and the calls that start the latter two. -/
inductive ControlMove (s : St) : Label → St → Prop
  | watchdog {i : Nat} {a : WatchdogAct} {loc : WatchdogLoc} {s' : St} (hloc : s.watchdogs[i]? = some loc)
      (h : watchdogStep s i loc a = some s') (hcl : s'.closes = s.closes) (hab : s'.aborts = s.aborts) :
      ControlMove s (.watchdog i a) s'
  | close {i : Nat} {a : CallAct} {loc : CloseLoc} {s' : St} (hloc : s.closes[i]? = some loc)
      (h : closeStep s i loc a = some s') (hab : s'.aborts = s.aborts) : ControlMove s (.close i a) s'
  | abort {i : Nat} {loc : AbortLoc} {s' : St} (hloc : s.aborts[i]? = some loc)
      (h : abortStep s i loc = some s') (hcl : s'.closes = s.closes) (hwd : s'.watchdogs = s.watchdogs) :
      ControlMove s (.abort i) s'
  | callClose (hal : s.driver = .alive) :
      ControlMove s .callClose { s with closes := s.closes ++ [.start] }
  | callAbort (hal : s.driver = .alive) :
      ControlMove s .callAbort { s with aborts := s.aborts ++ [.store] }

/-- A step, by the part of the state it may touch. -/
inductive Move (config : ConnectionConfig) (s : St) : Label → St → Prop
  | reader {a : ReaderAct} {s' : St} (f : ReaderFrame s s')
      (h : readerStep s s.reader.loc a = some s') : Move config s (.reader a) s'
  | writer {a : WriterAct} {s' : St} (f : WriterFrame s s')
      (h : writerStep s s.writer.loc a = some s') : Move config s (.writer a) s'
  | control {l : Label} {s' : St} (f : ControlFrame s s') (m : ControlMove s l s') : Move config s l s'
  | send {i : Nat} {a : SendAct} {loc : SendLoc} {s' : St} (f : SendFrame s s')
      (hloc : s.sends[i]? = some loc) (h : sendStep config s i loc a = some s') :
      Move config s (.send i a) s'
  | receive {i : Nat} {a : CallAct} {loc : ReceiveLoc} {s' : St} (f : ReceiveFrame s s')
      (hloc : s.receives[i]? = some loc) (h : receiveStep s i loc a = some s') :
      Move config s (.receive i a) s'
  | callAdmit (size : Nat) (hal : s.driver = .alive) :
      Move config s (.callAdmit size) { s with sends := s.sends ++ [.start size] }
  | callReceive (hal : s.driver = .alive) :
      Move config s .callReceive { s with receives := s.receives ++ [.start] }
  | dropDriver (hal : s.driver = .alive) (hidle : s.idle = true) :
      Move config s .dropDriver { s with driver := .dropping, aborts := s.aborts ++ [.store] }
  | dropFields (hdr : s.driver = .dropping) (hover : s.aborts.all AbortLoc.isOver = true) :
      Move config s .dropFields (dropFields s)

variable {l : Label}

theorem step_move (h : step config s l = some s') : Move config s l s' := by
  cases l with
  | reader a => exact .reader (readerStep_frame h) h
  | writer a => exact .writer (writerStep_frame h) h
  | watchdog i a =>
    obtain ⟨_, hloc, h⟩ := Option.bind_eq_some_iff.mp h
    obtain ⟨f, hcl, hab⟩ := watchdogStep_frame h
    exact .control f (.watchdog hloc h hcl hab)
  | close i a =>
    obtain ⟨_, hloc, h⟩ := Option.bind_eq_some_iff.mp h
    obtain ⟨f, hab⟩ := closeStep_frame h
    exact .control f (.close hloc h hab)
  | abort i =>
    obtain ⟨_, hloc, h⟩ := Option.bind_eq_some_iff.mp h
    obtain ⟨f, hcl, hwd⟩ := abortStep_frame h
    exact .control f (.abort hloc h hcl hwd)
  | send i a =>
    obtain ⟨_, hloc, h⟩ := Option.bind_eq_some_iff.mp h
    exact .send (sendStep_frame h) hloc h
  | receive i a =>
    obtain ⟨_, hloc, h⟩ := Option.bind_eq_some_iff.mp h
    exact .receive (receiveStep_frame h) hloc h
  | callClose =>
    obtain ⟨hal, h⟩ := Option.ite_none_right_eq_some.mp h
    cases h; exact .control (by constructor <;> rfl) (.callClose hal)
  | callAbort =>
    obtain ⟨hal, h⟩ := Option.ite_none_right_eq_some.mp h
    cases h; exact .control (by constructor <;> rfl) (.callAbort hal)
  | callAdmit size =>
    obtain ⟨hal, h⟩ := Option.ite_none_right_eq_some.mp h
    cases h; exact .callAdmit size hal
  | callReceive =>
    obtain ⟨hal, h⟩ := Option.ite_none_right_eq_some.mp h
    cases h; exact .callReceive hal
  | dropDriver =>
    obtain ⟨⟨hal, hidle⟩, h⟩ := Option.ite_none_right_eq_some.mp h
    cases h; exact .dropDriver hal hidle
  | dropFields =>
    obtain ⟨⟨hdr, hover⟩, h⟩ := Option.ite_none_right_eq_some.mp h
    cases h; exact .dropFields hdr hover

/-- Only the reader moves the reader. -/
theorem step_reader_eq (hl : ∀ a, l ≠ .reader a) (h : step config s l = some s') :
    s'.reader = s.reader := by
  cases step_move h with
  | reader => exact absurd rfl (hl _)
  | writer f | control f | send f | receive f => exact f.reader
  | _ => rfl

/-- Only the writer moves the writer. -/
theorem step_writer_eq (hl : ∀ a, l ≠ .writer a) (h : step config s l = some s') :
    s'.writer = s.writer := by
  cases step_move h with
  | writer => exact absurd rfl (hl _)
  | reader f | control f | send f | receive f => exact f.writer
  | _ => rfl

/-- A step of `close`, `abort` or a watchdog forgets no call. -/
theorem control_calls (m : ControlMove s l s') :
    s.closes.length ≤ s'.closes.length ∧ s.aborts.length ≤ s'.aborts.length := by
  cases m with
  | watchdog _ _ hcl hab => rw [hcl, hab]; exact ⟨Nat.le_refl _, Nat.le_refl _⟩
  | close _ hst hab =>
    refine ⟨Nat.le_of_eq ?_, by rw [hab]⟩
    cases closeStep_rule hst <;> exact List.length_set.symm
  | @abort i loc _ _ hst hcl =>
    refine ⟨by rw [hcl], Nat.le_of_eq ?_⟩
    cases loc <;> cases hst <;> exact List.length_set.symm
  | callClose | callAbort => simp

theorem step_calls (h : step config s l = some s') :
    s.closes.length ≤ s'.closes.length ∧ s.aborts.length ≤ s'.aborts.length := by
  cases step_move h with
  | control f m => exact control_calls m
  | reader f | writer f | send f | receive f =>
    rw [f.closes, f.aborts]
    exact ⟨Nat.le_refl _, Nat.le_refl _⟩
  | callAdmit | callReceive | dropFields => exact ⟨Nat.le_refl _, Nat.le_refl _⟩
  | dropDriver => simp

end FogWS
