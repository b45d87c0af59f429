import FogWS.Exceptions
import FogWS.Inbound
/-!
# What an error is due to

Every error names an event outside the driver: a frame handed over by the library, the end or a failure of
the transport, a timer, or a call. So in a run without a failure there is no error of a failure; and the two
texts that would blame a task of the driver (driver.rs:403, driver.rs:620) are told to nobody.

| here | there |
| --- | --- |
| `Caused` | an error, and the event of the run it is due to |
| `ReaderLoc.Taken` | what the reader has taken from the transport |
| `Changed` | a message that is not of the admitted size when it is handed over (driver.rs:285) |
| `Explained` | the errors of a connection and of its calls |
-/
namespace FogWS

/-- A close or an abort has been called, or the driver dropped. -/
def Asked (ls : List Label) : Prop := .callClose ∈ ls ∨ .callAbort ∈ ls ∨ .dropDriver ∈ ls

inductive Caused (ls : List Label) : DriverError → Prop
  | localClose (h : Asked ls) : Caused ls .localNormal
  | peer (frame : Option CloseFrame) (b : Bool) (h : .reader (.item (some (.ok (.close frame)))) ∈ ls)
      (hb : b = true → Asked ls) : Caused ls (classifyClose frame b)
  | receiveFailed (error : WsError) (h : .reader (.item (some (.error error))) ∈ ls) :
      Caused ls (.transport ("WebSocket receive failed: " ++ error.display))
  | ended (h : .reader (.item none) ∈ ls) :
      Caused ls (.transport "WebSocket transport ended without a close frame")
  | flushFailed (error : WsError) (h : .writer (.sinkErr error) ∈ ls) :
      Caused ls (.transport "WebSocket control flush failed")
  | sendFailed (error : WsError) (h : .writer (.sinkErr error) ∈ ls) :
      Caused ls (.transport ("WebSocket send failed: " ++ error.display))
  | closeFailed (error : WsError) (h : .writer (.sinkErr error) ∈ ls) : Caused ls (closeFailed error)
  | timedOut (i : Nat) (h : .watchdog i .timer ∈ ls) : Caused ls (.transport "WebSocket close timed out")
  | abandoned (h : .callAbort ∈ ls ∨ .dropDriver ∈ ls) : Caused ls abandoned

/-- The event that the reader has met, unless the connection was over before. -/
def ReaderLoc.Taken (ls : List Label) (late : Prop) : ReaderLoc → Prop
  | .closeTaken frame | .closeMark frame _ => .reader (.item (some (.ok (.close frame)))) ∈ ls
  | .errTaken error => .reader (.item (some (.error error))) ∈ ls
  | .ended => .reader (.item none) ∈ ls ∨ late
  | _ => True

structure Traced (ls : List Label) (s : St) : Prop where
  carried : Carried (Caused ls) s
  taken : s.reader.loc.Taken ls (3 ≤ s.cells.state.value.rank)
  begun : s.begun = true → Asked ls
  aborts : s.aborts ≠ [] → .callAbort ∈ ls ∨ .dropDriver ∈ ls
  watchdogs : ∀ w ∈ s.watchdogs, w = .expired → ∃ i, .watchdog i .timer ∈ ls

variable {config : ConnectionConfig} {s s' : St} {l : Label} {ls ls' : List Label} {e : DriverError}

/-! ## Longer runs -/

theorem Asked.mono (hsub : ls ⊆ ls') (h : Asked ls) : Asked ls' :=
  h.imp (fun h => hsub h) (Or.imp (fun h => hsub h) fun h => hsub h)

theorem Caused.mono (hsub : ls ⊆ ls') (h : Caused ls e) : Caused ls' e := by
  cases h with
  | localClose h => exact .localClose (h.mono hsub)
  | peer frame b h hb => exact .peer frame b (hsub h) fun hx => (hb hx).mono hsub
  | receiveFailed error h => exact .receiveFailed error (hsub h)
  | ended h => exact .ended (hsub h)
  | flushFailed error h => exact .flushFailed error (hsub h)
  | sendFailed error h => exact .sendFailed error (hsub h)
  | closeFailed error h => exact .closeFailed error (hsub h)
  | timedOut i h => exact .timedOut i (hsub h)
  | abandoned h => exact .abandoned (h.imp (fun h => hsub h) fun h => hsub h)

theorem ReaderLoc.Taken.mono {loc : ReaderLoc} {late late' : Prop} (hsub : ls ⊆ ls') (hlate : late → late')
    (h : loc.Taken ls late) : loc.Taken ls' late' := by
  cases loc with
  | closeTaken | closeMark | errTaken => exact hsub h
  | ended => exact h.imp (fun h => hsub h) hlate
  | _ => trivial

/-! ## A step -/

/-- Every error has its cause when it is made, or comes too late. -/
theorem Traced.born (hs : Sourced s) (hl : Lifecycle s) (h : Traced ls s) (hb : Born s l e) :
    Caused (ls ++ [l]) e ∨ 3 ≤ s.cells.state.value.rank := by
  have hsub : ls ⊆ ls ++ [l] := List.subset_append_left ls [l]
  have hmem : l ∈ ls ++ [l] := List.mem_append_right ls (List.mem_singleton_self l)
  have htaken := h.taken
  have hread := hs.reading
  cases hb with
  | peer frame b hloc =>
    rw [hloc] at htaken hread
    exact .inl (.peer frame b (hsub htaken) fun hb => (h.begun (hread.1 hb)).mono hsub)
  | receiveFailed error hloc =>
    rw [hloc] at htaken hread
    unfold receiveFailure
    split
    · rename_i hc
      exact .inl (.localClose ((h.begun (hread.1 hc.1)).mono hsub))
    · exact .inl (.receiveFailed error (hsub htaken))
  | ended hloc =>
    rw [hloc] at htaken hread
    unfold streamEnd
    split
    · rename_i hc
      exact .inl (.localClose ((h.begun (hread.1 hc)).mono hsub))
    · exact htaken.imp_left fun hi => .ended (hsub hi)
  | readerGone hdone =>
    -- the reader has ended, and so has the connection
    have hok := hl.reader.2
    generalize s.reader.loc = loc at hok hdone
    cases loc with
    | returned | finished => exact .inr hok
    | _ => cases hdone
  | flushFailed error => exact .inl (.flushFailed error hmem)
  | sendFailed error => exact .inl (.sendFailed error hmem)
  | closeFailed error => exact .inl (.closeFailed error hmem)
  | timedOut i hloc =>
    obtain ⟨j, hj⟩ := h.watchdogs _ (List.mem_of_getElem? hloc) rfl
    exact .inl (.timedOut j (hsub hj))
  | abandoned i hloc =>
    have hne : s.aborts ≠ [] := List.ne_nil_of_mem (List.mem_of_getElem? hloc)
    exact .inl (.abandoned ((h.aborts hne).imp (fun h => hsub h) fun h => hsub h))
  | closing _ _ _ hstate => exact .inl (.localClose ((h.begun (hs.closing hstate)).mono hsub))

theorem readerStep_taken {bits : Nat} {loc : ReaderLoc} {a : ReaderAct} (hcfg : config.Accepted bits)
    (hl : Lifecycle s) (hd : Delivery s) (hsized : loc.Sized config)
    (h : loc.Taken ls (3 ≤ s.cells.state.value.rank))
    (hle : s.cells.state.value.rank ≤ s'.cells.state.value.rank) (hst : readerStep s loc a = some s') :
    s'.reader.loc.Taken (ls ++ [.reader a]) (3 ≤ s'.cells.state.value.rank) := by
  have hsub : ls ⊆ ls ++ [.reader a] := List.subset_append_left ls _
  have hmem : .reader a ∈ ls ++ [.reader a] := List.mem_append_right ls (List.mem_singleton_self _)
  cases readerStep_rule hst with
  | streamEnd => exact .inl hmem
  | streamError | closeFrame => exact hmem
  | closeTaken => exact hsub h
  -- no message is too long, and only data is queued
  | queueTooLong payload _ hlen => exact absurd (hcfg.size_le_u32 hsized.2) (Nat.not_le_of_gt hlen)
  | acquireOther payload _ hm =>
    obtain ⟨⟨d, hd⟩, -⟩ := hsized
    rw [hm] at hd
    cases hd
  | sendClosed message permit hc =>
    -- the receiver is gone once the driver has been aborted
    have habort := hd.closed (Mpsc.trySend_closed hc)
    have hsig := hl.cells.signal_le
    rw [habort] at hsig
    exact .inr hsig
  | errTaken | ended =>
    dsimp only [St.readerAt, ReaderLoc.conclude]
    split <;> trivial
  | _ => trivial

theorem step_taken {bits : Nat} (hcfg : config.Accepted bits) (hl : Lifecycle s) (hd : Delivery s)
    (hstock : Stock config s) (h : Traced ls s) (hst : step config s l = some s') :
    s'.reader.loc.Taken (ls ++ [l]) (3 ≤ s'.cells.state.value.rank) := by
  have hle := (lifecycle_step hl hst).2.rank_le
  by_cases hr : ∃ a, l = .reader a
  · obtain ⟨a, rfl⟩ := hr
    exact readerStep_taken hcfg hl hd hstock.reader h.taken hle hst
  · rw [step_reader_eq (fun a ha => hr ⟨a, ha⟩) hst]
    exact h.taken.mono (List.subset_append_left ls [l]) fun h3 => Nat.le_trans h3 hle

/-- Who closes, aborts or waits has been told to. -/
theorem step_asked (h : Traced ls s) (hst : step config s l = some s') :
    (s'.begun = true → Asked (ls ++ [l])) ∧
      (s'.aborts ≠ [] → .callAbort ∈ ls ++ [l] ∨ .dropDriver ∈ ls ++ [l]) ∧
      ∀ w ∈ s'.watchdogs, w = .expired → ∃ i, .watchdog i .timer ∈ ls ++ [l] := by
  have hsub : ls ⊆ ls ++ [l] := List.subset_append_left ls [l]
  have hmem : l ∈ ls ++ [l] := List.mem_append_right ls (List.mem_singleton_self l)
  have hbegun : s.begun = true → Asked (ls ++ [l]) := fun hb => (h.begun hb).mono hsub
  have haborts : s.aborts ≠ [] → .callAbort ∈ ls ++ [l] ∨ .dropDriver ∈ ls ++ [l] := fun hne =>
    (h.aborts hne).imp (fun h => hsub h) fun h => hsub h
  have hdogs : ∀ w ∈ s.watchdogs, w = .expired → ∃ i, .watchdog i .timer ∈ ls ++ [l] := fun w hw he =>
    (h.watchdogs w hw he).imp fun _ h => hsub h
  cases step_move hst with
  | reader f | writer f | send f | receive f =>
    rw [St.begun, f.closes, f.aborts, f.watchdogs]
    exact ⟨hbegun, haborts, hdogs⟩
  | control f m =>
    cases m with
    | watchdog hloc hst hcl hab =>
      rw [St.begun, hcl, hab]
      refine ⟨hbegun, haborts, ?_⟩
      cases watchdogStep_rule hst with
      | timer => exact Pool.forall_set hdogs fun _ => ⟨_, hmem⟩
      | _ => exact Pool.forall_set hdogs (by rintro ⟨⟩)
    | close hloc hst hab =>
      rw [hab]
      refine ⟨fun _ => hbegun (begun_of_close hloc), haborts, ?_⟩
      cases closeStep_rule hst with
      | spawn => exact Pool.forall_snoc hdogs (by rintro ⟨⟩)
      | _ => exact hdogs
    | abort hloc hst hcl hwd =>
      have hne : s.aborts ≠ [] := List.ne_nil_of_mem (List.mem_of_getElem? hloc)
      rw [hwd]
      exact ⟨fun _ => hbegun (begun_of_abort hloc), fun _ => haborts hne, hdogs⟩
    | callClose => exact ⟨fun _ => .inl hmem, haborts, hdogs⟩
    | callAbort => exact ⟨fun _ => .inr (.inl hmem), fun _ => .inl hmem, hdogs⟩
  | callAdmit | callReceive | dropFields => exact ⟨hbegun, haborts, hdogs⟩
  | dropDriver => exact ⟨fun _ => .inr (.inr hmem), fun _ => .inr hmem, hdogs⟩

/-! ## Runs -/

theorem traced_start (config : ConnectionConfig) : Traced [] (start config) where
  carried := carried_start _ config
  taken := trivial
  begun := by rintro ⟨⟩
  aborts := fun h => absurd rfl h
  watchdogs := List.forall_mem_nil _

theorem traced_step {bits : Nat} (hcfg : config.Accepted bits) (hr : Reachable config s)
    (hstock : Stock config s) (h : Traced ls s) (hst : step config s l = some s') : Traced (ls ++ [l]) s' := by
  have hl := lifecycle_reachable hr
  obtain ⟨hbegun, haborts, hdogs⟩ := step_asked h hst
  refine ⟨?_, step_taken hcfg hl (delivery_reachable hr) hstock h hst, hbegun, haborts, hdogs⟩
  exact carried_step (results_reachable hr) (lifecycle_step hl hst).2.rank_le
    (h.carried.mono fun _ he => he.mono (List.subset_append_left ls [l]))
    (fun _ he => h.born (sourced_reachable hr) hl he) hst

theorem traced_run {bits : Nat} (hcfg : config.Accepted bits)
    (hrun : Lts.run (step config) (start config) ls = some s) (hfit : ∀ l ∈ ls, l.fits config = true) :
    Traced ls s := by
  have hall := Lts.run_history (P := fun ls s => (∀ l ∈ ls, l.fits config = true) → Traced ls s)
    (fun _ => traced_start config) (fun as s l t hr h hst hfit => ?_) hrun
  · exact hall hfit
  · have hfit' : ∀ l ∈ as, l.fits config = true := fun x hx => hfit x (List.mem_append_left _ hx)
    exact traced_step hcfg ⟨as, hr⟩ (stock_run hr hfit') (h hfit') hst

/-! ## Messages that have changed -/

/-- In the run, `send_admitted` was given a message that was not of the admitted size. -/
def Changed (config : ConnectionConfig) (ls : List Label) (i : Nat) : Prop :=
  ∃ as t m size, as ++ [.send i (.handOver m)] <+: ls ∧ Lts.run (step config) (start config) as = some t ∧
    t.sends[i]? = some (.admitted size) ∧ m.len ≠ size

theorem Changed.mono {i : Nat} (hpre : ls <+: ls') (h : Changed config ls i) : Changed config ls' i := by
  obtain ⟨as, t, m, size, has, h⟩ := h
  exact ⟨as, t, m, size, has.trans hpre, h⟩

/-- No other step tells a send that its message has changed. -/
theorem mismatched_step {i : Nat} (hst : step config s l = some s')
    (hi : s'.sends[i]? = some (.mismatched e)) : s.sends[i]? = some (.mismatched e) ∨
      ∃ m size, l = .send i (.handOver m) ∧ s.sends[i]? = some (.admitted size) ∧ m.len ≠ size := by
  cases step_move hst with
  | reader f | writer f | control f | receive f => exact .inl (f.sends ▸ hi)
  | @send j a loc _ f hloc hst =>
    cases sendStep_rule hst with
    | mismatch size m hne =>
      rcases Pool.get_set hi with hi | ⟨rfl, -⟩
      · exact .inl hi
      · exact .inr ⟨m, size, rfl, hloc, hne⟩
    | _ =>
      rcases Pool.get_set hi with hi | ⟨-, hloc'⟩
      · exact .inl hi
      · cases hloc'
  | callAdmit =>
    rcases Pool.get_snoc hi with hi | ⟨-, hi⟩
    · exact .inl hi
    · cases hi
  | callReceive | dropDriver | dropFields => exact .inl hi

theorem changed_of_mismatched {i : Nat} (hrun : Lts.run (step config) (start config) ls = some s)
    (hi : s.sends[i]? = some (.mismatched e)) : Changed config ls i := by
  have hall := Lts.run_history (P := fun ls s => s.sends[i]? = some (.mismatched e) → Changed config ls i)
    (by rintro ⟨⟩) (fun as s l t hr h hst hi => ?_) hrun
  · exact hall hi
  · rcases mismatched_step hst hi with hi | ⟨m, size, rfl, hloc, hne⟩
    · exact (h hi).mono (List.prefix_append as [l])
    · exact ⟨as, s, m, size, List.prefix_rfl, hr, hloc, hne⟩

/-! ## The result -/

theorem transport_ne {a b c : String} (h : a.toList.head? ≠ c.toList.head?) (hne : a.toList.head? ≠ none) :
    DriverError.transport (a ++ b) ≠ .transport c := by
  intro heq
  have hl := congrArg (fun s => s.toList.head?) (DriverError.transport.inj heq)
  simp only [String.toList_append, List.head?_append] at hl
  cases ha : a.toList.head? with
  | none => exact hne ha
  | some x =>
    rw [ha] at hl h
    exact h hl

/-- No event is the fault of a task. -/
theorem Caused.blameless (h : Caused ls e) : e ≠ .transport "connection reader stopped unexpectedly" ∧
    e ≠ .transport "connection driver stopped unexpectedly" := by
  cases h with
  | peer frame b =>
    obtain ⟨info, he⟩ | ⟨info, he⟩ := classifyClose_cases frame b
    all_goals rw [he]; exact ⟨by rintro ⟨⟩, by rintro ⟨⟩⟩
  | receiveFailed | sendFailed | closeFailed =>
    exact ⟨transport_ne (by decide) (by decide), transport_ne (by decide) (by decide)⟩
  | localClose => exact ⟨by rintro ⟨⟩, by rintro ⟨⟩⟩
  | ended | flushFailed | timedOut | abandoned => exact ⟨by decide, by decide⟩

/-- What the connection ends with, and what its calls are told. -/
structure Explained (config : ConnectionConfig) (ls : List Label) (s : St) : Prop where
  outcome : ∀ e, s.cells.state.value = .closed e → Caused ls e
  receive : ∀ (i : Nat) e, s.receives[i]? = some (.returned (.error e)) → e = receiveBusy ∨ Caused ls e
  send : ∀ (i : Nat) e, s.sends[i]? = some (.returned (.error e)) → Caused ls e
  refused : ∀ (i : Nat) why e, s.sends[i]? = some (.refused why e) →
    (∃ message, e = .resourceLimit message) ∨ Caused ls e
  mismatched : ∀ (i : Nat) e, s.sends[i]? = some (.mismatched e) → e = messageChanged ∧ Changed config ls i
  close : ∀ (i : Nat) e, s.closes[i]? = some (.returned (.error e)) → Caused ls e
  blameless : ∀ e, s.cells.state.value = .closed e →
    e ≠ .transport "connection reader stopped unexpectedly" ∧
      e ≠ .transport "connection driver stopped unexpectedly"

/-- **Every error names an event of the run.** -/
theorem errors_explained {bits : Nat} (ls : List Label) (hcfg : config.Accepted bits)
    (hrun : Lts.run (step config) (start config) ls = some s) (hfit : ∀ l ∈ ls, l.fits config = true) :
    Explained config ls s := by
  have hr : Reachable config s := ⟨ls, hrun⟩
  have htraced := traced_run hcfg hrun hfit
  have hres := results_reachable hr
  have hclosed : ∀ e, s.cells.state.value = .closed e → Caused ls e := fun e he =>
    htraced.carried.state e (by rw [he]; rfl)
  refine ⟨hclosed, fun i e hi => ?_, fun i e hi => ?_, fun i why e hi => ?_, fun i e hi => ⟨?_, ?_⟩,
    fun i e hi => ?_, fun e he => (hclosed e he).blameless⟩
  · exact (hres.receives _ (List.mem_of_getElem? hi)).imp_right fun he => hclosed e he
  · exact hclosed e (hres.sends _ (List.mem_of_getElem? hi))
  · exact htraced.carried.sends _ (List.mem_of_getElem? hi)
  · exact htraced.carried.sends _ (List.mem_of_getElem? hi)
  · exact changed_of_mismatched hrun hi
  · obtain ⟨x, hx, heq⟩ := (lifecycle_reachable hr).closes _ (List.mem_of_getElem? hi)
    have hsame : e = x := by
      cases x with
      | closedOk => cases heq
      | _ => exact Except.error.inj heq
    exact hsame ▸ hclosed x hx

/-- The transport breaks under a send. -/
def brokenRun : List Label :=
  [.callAdmit 1, .send 0 .next, .send 0 .next, .send 0 .next, .send 0 (.handOver (.binary [7])), .writer .next,
    .writer .next, .writer .outbound, .writer .next, .writer (.sinkErr (.other "broken pipe")), .writer .next,
    .writer .next, .writer .next, .send 0 .next]

theorem errors_explained_broken :
    Explained .tiny brokenRun (Lts.after (step .tiny) (start .tiny) brokenRun) ∧
      .returned (.error (.transport "WebSocket send failed: broken pipe")) ∈
        (Lts.after (step .tiny) (start .tiny) brokenRun).sends :=
  have hcfg : ConnectionConfig.Accepted 64 .tiny := by constructor <;> decide
  ⟨errors_explained brokenRun hcfg (Lts.run_after rfl) (by decide), List.mem_singleton.mpr rfl⟩

end FogWS
