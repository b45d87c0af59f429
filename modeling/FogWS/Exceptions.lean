import FogWS.Origins
import FogWS.SendText
/-!
# What the exceptions tell

An error of `receive`, `send` or `close` becomes an exception (py.rs:255), and its attributes say how the
connection ended: with the code and the reason of a Close frame, with code 1000 for a close from this side,
or with no code at all for a transport that failed. Here every error is followed back to where it was made.

The Close frame is the one that the library hands to the reader (driver.rs:446). It is not always the one on
the wire: for a frame with a code that nobody may send, such as 1005 or 5000, the library hands over one of
its own, with code 1002 and "Protocol violation".

| here | there |
| --- | --- |
| `St.begun` | `close()` or `abort()` has been called |
| `FromPeer` | the Close frame the reader was handed, and the flag `initiated_by_local` beside it |
| `Authentic` | an error the connection ends with, and where it comes from |
| `Reported` | the attributes of `ConnectionClosedOK` and `ConnectionClosedError` |
-/
namespace FogWS

/-- Somebody has called `close`, or `abort`. -/
def St.begun (s : St) : Bool := !s.closes.isEmpty || !s.aborts.isEmpty

/-- The error is what the Close frame stands for that the library has handed to the reader; it is a local
close only if somebody here has begun one. -/
def FromPeer (begun : Bool) (peer : Option PeerClose) (e : DriverError) : Prop :=
  ∃ p b, peer = some p ∧ p.initiatedByLocal = some b ∧ e = classifyClose p.frame b ∧
    (b = true → begun = true)

/-- An error that a connection ends with. -/
def DriverError.Authentic (begun : Bool) (peer : Option PeerClose) : DriverError → Prop
  | .transport _ => True
  | .closedOk info => (info = .localNormal ∧ begun = true) ∨ FromPeer begun peer (.closedOk info)
  | .closedError info => FromPeer begun peer (.closedError info)
  | _ => False

/-- What the reader knows of a Close frame, and of a close from this side, until it has an outcome. -/
def ReaderLoc.Reading (begun closing : Bool) (peer : Option PeerClose) : ReaderLoc → Prop
  | .closeTaken frame => (closing = true → begun = true) ∧ ∃ live, peer = some ⟨frame, live, none⟩
  | .closeMark frame b => (b = true → begun = true) ∧ ∃ live, peer = some ⟨frame, live, some b⟩
  | .finish _ | .finishSignal _ | .finishSubscribe _ | .finishWait _ _ | .finishExpired _ | .finishAbort
  | .failure _ | .failureSignal | .failureAbort | .leave | .returned | .finished => True
  | _ => (closing = true → begun = true) ∧ peer = none

/-- Everything that is published, or about to be, is authentic. -/
structure Sourced (s : St) : Prop where
  carried : Carried (·.Authentic s.begun s.hist.peerClose) s
  closing : s.cells.state.value = .closing → s.begun = true
  reading : s.reader.loc.Reading s.begun s.cells.closing s.hist.peerClose

/-! ## More is known later -/

/-- A Close frame the reader has classified stays on record. -/
def Recalls (peer peer' : Option PeerClose) : Prop :=
  ∀ p b, peer = some p → p.initiatedByLocal = some b → peer' = some p

variable {begun begun' : Bool} {peer peer' : Option PeerClose} {e : DriverError}

theorem FromPeer.mono (hb : begun = true → begun' = true) (hp : Recalls peer peer')
    (h : FromPeer begun peer e) : FromPeer begun' peer' e := by
  obtain ⟨p, b, hpeer, hinit, he, hloc⟩ := h
  exact ⟨p, b, hp p b hpeer hinit, hinit, he, fun h => hb (hloc h)⟩

theorem DriverError.Authentic.mono (hb : begun = true → begun' = true) (hp : Recalls peer peer')
    (h : e.Authentic begun peer) : e.Authentic begun' peer' := by
  cases e with
  | transport => trivial
  | closedOk => exact h.imp (And.imp_right hb) (FromPeer.mono hb hp)
  | closedError => exact FromPeer.mono hb hp h
  | _ => exact h

theorem ReaderLoc.Reading.mono {loc : ReaderLoc} {closing closing' : Bool}
    (hb : begun = true → begun' = true) (hc : closing' = true → closing = true ∨ begun' = true)
    (h : loc.Reading begun closing peer) : loc.Reading begun' closing' peer := by
  have hflag : (closing = true → begun = true) → closing' = true → begun' = true :=
    fun h hc' => (hc hc').elim (fun h' => hb (h h')) id
  cases loc with
  | closeMark => exact ⟨fun h' => hb (h.1 h'), h.2⟩
  | finish | finishSignal | finishSubscribe | finishWait | finishExpired | finishAbort | failure
  | failureSignal | failureAbort | leave | returned | finished => trivial
  | _ => exact ⟨hflag h.1, h.2⟩

theorem recalls_refl (peer : Option PeerClose) : Recalls peer peer := fun _ _ h _ => h

/-! ## Where errors are made -/

theorem localNormal_authentic (h : begun = true) : DriverError.localNormal.Authentic begun peer :=
  .inl ⟨rfl, h⟩

/-- What a frame stands for is a close. -/
theorem classifyClose_cases (f : Option CloseFrame) (b : Bool) :
    (∃ info, classifyClose f b = .closedOk info) ∨ ∃ info, classifyClose f b = .closedError info := by
  unfold classifyClose
  split
  · exact .inl ⟨_, rfl⟩
  · dsimp only
    split
    · exact .inl ⟨_, rfl⟩
    · exact .inr ⟨_, rfl⟩

theorem classifyClose_authentic {p : PeerClose} {b : Bool} (hp : peer = some p)
    (hb : p.initiatedByLocal = some b) (hloc : b = true → begun = true) :
    (classifyClose p.frame b).Authentic begun peer := by
  have hfrom : FromPeer begun peer (classifyClose p.frame b) := ⟨p, b, hp, hb, rfl, hloc⟩
  obtain ⟨info, he⟩ | ⟨info, he⟩ := classifyClose_cases p.frame b
  · rw [he] at hfrom ⊢
    exact .inr hfrom
  · rw [he] at hfrom ⊢
    exact hfrom

theorem receiveFailure_authentic {closing : Bool} {error : WsError} (h : closing = true → begun = true) :
    (receiveFailure closing error).Authentic begun peer := by
  unfold receiveFailure
  split
  · rename_i hc; exact localNormal_authentic (h hc.1)
  · trivial

theorem streamEnd_authentic {closing : Bool} (h : closing = true → begun = true) :
    (streamEnd closing).Authentic begun peer := by
  unfold streamEnd
  split
  · exact localNormal_authentic (h ‹_›)
  · trivial

variable {config : ConnectionConfig} {s s' : St} {l : Label}

/-- Every error is authentic when it is made. -/
theorem Sourced.born (h : Sourced s) (hb : Born s l e) : e.Authentic s.begun s.hist.peerClose := by
  have hread := h.reading
  cases hb with
  | peer frame b hloc =>
    rw [hloc] at hread
    obtain ⟨hb, live, hp⟩ := hread
    exact classifyClose_authentic (p := ⟨frame, live, some b⟩) hp rfl hb
  | receiveFailed error hloc =>
    rw [hloc] at hread
    exact receiveFailure_authentic hread.1
  | ended hloc =>
    rw [hloc] at hread
    exact streamEnd_authentic hread.1
  | closing _ _ _ hstate => exact localNormal_authentic (h.closing hstate)
  | _ => trivial

/-! ## What the reader and the state say of a close -/

/-- What is published as an outcome is not `Closing`. -/
theorem publishTerminal_closing {c : Cells} (h : (c.publishTerminal e).state.value = .closing) :
    c.state.value = .closing := by
  rw [Cells.publishTerminal_value] at h
  split at h
  · exact h
  · cases h

theorem publishPeerClosed_closing {c : Cells} (h : (c.publishPeerClosed e).state.value = .closing) :
    c.state.value = .closing := by
  rw [Cells.publishPeerClosed_value] at h
  split at h
  · cases h
  · exact h

/-- The reader takes one Close frame, and then classifies it. -/
theorem readerStep_reading {loc : ReaderLoc} {a : ReaderAct}
    (hloc : loc.Reading begun s.cells.closing s.hist.peerClose) (h : readerStep s loc a = some s') :
    s'.reader.loc.Reading begun s'.cells.closing s'.hist.peerClose ∧
      Recalls s.hist.peerClose s'.hist.peerClose := by
  have hsame := recalls_refl s.hist.peerClose
  cases readerStep_rule h with
  | closeFrame frame => exact ⟨⟨hloc.1, _, rfl⟩, fun p b hp => by rw [hloc.2] at hp; cases hp⟩
  | closeTaken frame =>
    obtain ⟨hflag, live, hp⟩ := hloc
    refine ⟨⟨hflag, live, by rw [hp]; rfl⟩, fun p b hpeer hinit => ?_⟩
    rw [hp] at hpeer
    cases hpeer
    cases hinit
  | errTaken | ended =>
    refine ⟨?_, hsame⟩
    dsimp only [St.readerAt, ReaderLoc.conclude]
    split <;> trivial
  | unstarted | top | streamEnd | streamError | text | binary | ping | pong | frame | selectChanged | changed
  | queueStopped | queueTooLong | queue | acquire | acquireOther | acquireChanged | send | sendClosed
  | sendChanged | control => exact ⟨hloc, hsame⟩
  | _ => exact ⟨trivial, hsame⟩

theorem begun_iff : s.begun = true ↔ 0 < s.closes.length + s.aborts.length := by
  cases hc : s.closes <;> cases ha : s.aborts <;> simp [St.begun, hc, ha]

theorem begun_mono (hc : s.closes.length ≤ s'.closes.length) (ha : s.aborts.length ≤ s'.aborts.length)
    (h : s.begun = true) : s'.begun = true := by
  rw [begun_iff] at h ⊢
  omega

theorem begun_of_close {i : Nat} {loc : CloseLoc} (h : s.closes[i]? = some loc) : s.begun = true := by
  have hlt := (List.getElem?_eq_some_iff.mp h).1
  rw [begun_iff]
  omega

theorem begun_of_abort {i : Nat} {loc : AbortLoc} (h : s.aborts[i]? = some loc) : s.begun = true := by
  have hlt := (List.getElem?_eq_some_iff.mp h).1
  rw [begun_iff]
  omega

theorem readerStep_closing {loc : ReaderLoc} {a : ReaderAct} (hst : readerStep s loc a = some s')
    (h : s'.cells.state.value = .closing) : s.cells.state.value = .closing := by
  cases readerStep_rule hst with
  | finish => exact publishPeerClosed_closing h
  | finishExpired | failure => exact publishTerminal_closing h
  | _ => exact h

theorem writerStep_closing {loc : WriterLoc} {a : WriterAct} (hst : writerStep s loc a = some s')
    (h : s'.cells.state.value = .closing) : s.cells.state.value = .closing := by
  cases writerStep_rule hst with
  | closePublish => exact publishTerminal_closing h
  | fail =>
    dsimp only [St.writerAt] at h
    rw [Cells.publishWriterFailure_value] at h
    cases h
  | _ => exact h

/-- Only a `close` makes the state `Closing`. -/
theorem closing_step (hst : step config s l = some s') (h : s'.cells.state.value = .closing) :
    s.cells.state.value = .closing ∨ s.begun = true := by
  cases step_move hst with
  | reader f hst => exact .inl (readerStep_closing hst h)
  | writer f hst => exact .inl (writerStep_closing hst h)
  | control f m =>
    cases m with
    | watchdog _ hst =>
      cases watchdogStep_rule hst with
      | expired =>
        dsimp only [St.watchdogAt] at h
        rw [Cells.publishCloseTimeout_value] at h
        cases h
      | _ => exact .inl h
    | close hloc => exact .inr (begun_of_close hloc)
    | abort hloc => exact .inr (begun_of_abort hloc)
    | callClose | callAbort => exact .inl h
  | send f | receive f => exact .inl (f.cells ▸ h)
  | _ => exact .inl h

/-- The flag is set by the reader, once it has seen it, or by a close or an abort. -/
theorem control_flag (m : ControlMove s l s') (h : s'.cells.closing = true) :
    s.cells.closing = true ∨ s.begun = true := by
  cases m with
  | watchdog _ hst => cases watchdogStep_rule hst <;> exact .inl h
  | close hloc => exact .inr (begun_of_close hloc)
  | abort hloc => exact .inr (begun_of_abort hloc)
  | callClose | callAbort => exact .inl h

/-! ## Runs -/

theorem sourced_start (config : ConnectionConfig) : Sourced (start config) where
  carried := carried_start _ config
  closing := by rintro ⟨⟩
  reading := ⟨by rintro ⟨⟩, rfl⟩

/-- A step forgets no close, and no Close frame that has been classified. -/
theorem recalls_step (h : Sourced s) (hst : step config s l = some s') :
    (s.begun = true → s'.begun = true) ∧ Recalls s.hist.peerClose s'.hist.peerClose ∧
      s'.reader.loc.Reading s'.begun s'.cells.closing s'.hist.peerClose := by
  obtain ⟨hcl, hab⟩ := step_calls hst
  have hb : s.begun = true → s'.begun = true := begun_mono hcl hab
  have hsame := recalls_refl s.hist.peerClose
  refine ⟨hb, ?_⟩
  cases step_move hst with
  | reader f hst =>
    have hbegun : s'.begun = s.begun := by simp only [St.begun, f.closes, f.aborts]
    obtain ⟨hread, hp⟩ := readerStep_reading h.reading hst
    exact ⟨hp, hbegun ▸ hread⟩
  | writer f =>
    rw [f.peerClose, f.reader, f.closing]
    exact ⟨hsame, h.reading.mono hb .inl⟩
  | control f m =>
    rw [f.hist, f.reader]
    exact ⟨hsame, h.reading.mono hb fun hc => (control_flag m hc).imp_right hb⟩
  | send f | receive f =>
    rw [f.hist, f.reader, f.cells]
    exact ⟨hsame, h.reading.mono hb .inl⟩
  | callAdmit | callReceive | dropDriver | dropFields => exact ⟨hsame, h.reading.mono hb .inl⟩

theorem sourced_step (hr : Results s) (hl : Lifecycle s) (h : Sourced s) (hst : step config s l = some s') :
    Sourced s' := by
  obtain ⟨hb, hp, hread⟩ := recalls_step h hst
  have hcarried := carried_step hr (lifecycle_step hl hst).2.rank_le h.carried
    (fun _ he => .inl (h.born he)) hst
  exact ⟨hcarried.mono fun _ he => he.mono hb hp, fun hc => hb ((closing_step hst hc).elim h.closing id), hread⟩

theorem sourced_reachable (h : Reachable config s) : Sourced s :=
  (h.invariant (P := fun s => Reachable config s ∧ Sourced s) ⟨.start, sourced_start config⟩
    fun _ _ _ hP hst =>
      ⟨hP.1.next hst, sourced_step (results_reachable hP.1) (lifecycle_reachable hP.1) hP.2 hst⟩).2

/-! ## The exceptions -/

/-- The exception for a connection that has ended, or is about to. -/
inductive Reported (begun : Bool) (peer : Option PeerClose) : PyErr → Prop
  /-- A close from this side. -/
  | localNormal (message : String) (h : begun = true) : Reported begun peer
      ⟨.connectionClosedOk, message, some ⟨some 1000, "", some true⟩⟩
  /-- The Close frame is empty. -/
  | empty (message : String) (p : PeerClose) (b : Bool) (hp : peer = some p) (hf : p.frame = none)
      (hb : b = true → begun = true) : Reported begun peer
      ⟨.connectionClosedOk, message, some ⟨none, "", some b⟩⟩
  | clean (message : String) (p : PeerClose) (b : Bool) (f : CloseFrame) (hp : peer = some p)
      (hf : p.frame = some f) (hcode : f.code = 1000 ∨ f.code = 1001) (hb : b = true → begun = true) :
      Reported begun peer ⟨.connectionClosedOk, message, some ⟨some f.code, f.reason, some b⟩⟩
  | abnormal (message : String) (p : PeerClose) (b : Bool) (f : CloseFrame) (hp : peer = some p)
      (hf : p.frame = some f) (hcode : ¬(f.code = 1000 ∨ f.code = 1001)) (hb : b = true → begun = true) :
      Reported begun peer ⟨.connectionClosedError, message, some ⟨some f.code, f.reason, some b⟩⟩
  /-- There is no frame to tell of. -/
  | transport (message : String) : Reported begun peer
      ⟨.connectionClosedError, message, some ⟨none, "", none⟩⟩

theorem FromPeer.reported (h : FromPeer begun peer e) : Reported begun peer (driverErrorToPython e) := by
  obtain ⟨p, b, hp, -, rfl, hb⟩ := h
  cases hf : p.frame with
  | none => exact .empty _ p b hp hf hb
  | some f =>
    by_cases hcode : f.code = 1000 ∨ f.code = 1001
    · simp only [classifyClose, hcode, if_true]
      exact .clean _ p b f hp hf hcode hb
    · simp only [classifyClose, hcode, if_false]
      exact .abnormal _ p b f hp hf hcode hb

theorem DriverError.Authentic.reported (h : e.Authentic begun peer) :
    Reported begun peer (driverErrorToPython e) := by
  cases e with
  | transport message => exact .transport message
  | closedOk info =>
    rcases h with ⟨rfl, hb⟩ | h
    · exact .localNormal _ hb
    · exact h.reported
  | closedError info => exact FromPeer.reported h
  | _ => cases h

/-- What the calls that are over have raised. -/
structure Accounted (s : St) : Prop where
  receive : ∀ (i : Nat) e, s.receives[i]? = some (.returned (.error e)) →
    driverErrorToPython e =
        ⟨.concurrencyError, "only one receive operation may be active per connection", none⟩ ∨
      Reported s.begun s.hist.peerClose (driverErrorToPython e)
  send : ∀ (i : Nat) e, s.sends[i]? = some (.returned (.error e)) →
    Reported s.begun s.hist.peerClose (driverErrorToPython e)
  refused : ∀ (i : Nat) why e, s.sends[i]? = some (.refused why e) →
    (driverErrorToPython e).kind = (.resourceLimitError, none) ∨
      Reported s.begun s.hist.peerClose (driverErrorToPython e)
  /-- A message of another size than the admitted one is told of without attributes. -/
  mismatched : ∀ (i : Nat) e, s.sends[i]? = some (.mismatched e) →
    driverErrorToPython e = ⟨.connectionClosedError, "outbound message changed after capacity admission",
      some ⟨none, "", none⟩⟩
  /-- `close` raises no clean outcome, and returns on no other. -/
  close : ∀ (i : Nat) r, s.closes[i]? = some (.returned r) → ∃ e, s.cells.state.value = .closed e ∧
    Reported s.begun s.hist.peerClose (driverErrorToPython e) ∧
      ((driverErrorToPython e).type = .connectionClosedOk ∧ r = .ok () ∨
        (driverErrorToPython e).type = .connectionClosedError ∧ r = .error e)

/-- **Every exception is accounted for.** A code or a reason that an exception tells is that of the Close frame
the library has handed to the reader, or 1000 for a close from this side; `ConnectionClosedOK` is for the codes
1000 and 1001 and the empty frame, `ConnectionClosedError` for every other code and, without attributes, for
the transport; and `initiated_by_local` is set only once `close` or `abort` has been called. -/
theorem exceptions_accounted (config : ConnectionConfig) (s : St) (h : Reachable config s) : Accounted s := by
  have hsrc := sourced_reachable h
  have hres := results_reachable h
  have hclosed : ∀ e, s.cells.state.value = .closed e →
      Reported s.begun s.hist.peerClose (driverErrorToPython e) := fun e he =>
    (hsrc.carried.state e (by rw [he]; rfl)).reported
  refine ⟨fun i e hi => ?_, fun i e hi => ?_, fun i why e hi => ?_, fun i e hi => ?_, fun i r hi => ?_⟩
  · rcases hres.receives _ (List.mem_of_getElem? hi) with rfl | he
    · exact .inl rfl
    · exact .inr (hclosed e he)
  · exact hclosed e (hres.sends _ (List.mem_of_getElem? hi))
  · rcases hsrc.carried.sends _ (List.mem_of_getElem? hi) with ⟨message, rfl⟩ | he
    · exact .inl rfl
    · exact .inr he.reported
  · rw [show e = messageChanged from hsrc.carried.sends _ (List.mem_of_getElem? hi)]
    rfl
  · obtain ⟨e, he, rfl⟩ := (lifecycle_reachable h).closes _ (List.mem_of_getElem? hi)
    have hrep := hclosed e he
    refine ⟨e, he, hrep, ?_⟩
    cases e with
    | closedOk => exact .inl ⟨rfl, rfl⟩
    | closedError | transport => exact .inr ⟨rfl, rfl⟩
    | _ => cases hrep

/-- The peer closes with a code of its own, and a send, a receive and a close are told. -/
def failingPeerRun : List Label :=
  [.reader .next, .reader .next, .reader (.item (some (.ok (.close (some ⟨1011, "oops"⟩))))), .reader .next,
    .reader .next, .reader .next, .callAdmit 0, .send 0 .next, .reader .next, .writer .next, .writer .next,
    .writer .next, .writer .sinkOk, .writer .next, .writer .next, .writer .next, .writer .next, .reader .next,
    .reader .next, .reader .next, .reader .next, .callReceive, .receive 0 .next, .receive 0 .next,
    .receive 0 .next, .receive 0 .next, .receive 0 .next, .callClose, .close 0 .next, .close 0 .next]

theorem exceptions_accounted_failingPeer :
    Accounted (Lts.after (step .small) (start .small) failingPeerRun) ∧
      .returned (.error (.closedError ⟨some 1011, false, "oops"⟩)) ∈
        (Lts.after (step .small) (start .small) failingPeerRun).closes :=
  ⟨exceptions_accounted .small _ (Lts.reachable_after rfl), List.mem_singleton.mpr rfl⟩

end FogWS
