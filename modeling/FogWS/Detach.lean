import FogWS.Outbound
/-!
# A send whose future is dropped after hand-over

Nothing but the send itself looks at where it stands: every other step commutes with moving it
(`step_sendAt`). So the connection runs on as if the dropped future were still awaited, except that
the dropped future no longer holds an `Arc` of the driver (`dropDriver` looks at all calls).
-/
namespace FogWS

variable {config : ConnectionConfig} {s s' : St} {l : Label}

/-! ## Steps of other processes -/

theorem readerStep_sendAt (s : St) (i : Nat) (x : SendLoc) (loc : ReaderLoc) (a : ReaderAct) :
    readerStep (s.sendAt i x) loc a = (readerStep s loc a).map (·.sendAt i x) := by
  cases loc <;> cases a <;> try rfl
  all_goals dsimp only [readerStep, readerChanged, readerItem, St.sendAt]
  all_goals (repeat' split) <;> rfl

theorem writerStep_sendAt (s : St) (i : Nat) (x : SendLoc) (loc : WriterLoc) (a : WriterAct) :
    writerStep (s.sendAt i x) loc a = (writerStep s loc a).map (·.sendAt i x) := by
  cases loc <;> cases a <;> try rfl
  all_goals dsimp only [writerStep, writerOnShutdown, St.sendAt]
  all_goals (repeat' split) <;> rfl

theorem watchdogStep_sendAt (s : St) (i j : Nat) (x : SendLoc) (loc : WatchdogLoc) (a : WatchdogAct) :
    watchdogStep (s.sendAt i x) j loc a = (watchdogStep s j loc a).map (·.sendAt i x) := by
  cases loc <;> cases a <;> try rfl
  all_goals dsimp only [watchdogStep, St.sendAt]
  all_goals (repeat' split) <;> rfl

theorem closeStep_sendAt (s : St) (i j : Nat) (x : SendLoc) (loc : CloseLoc) (a : CallAct) :
    closeStep (s.sendAt i x) j loc a = (closeStep s j loc a).map (·.sendAt i x) := by
  cases loc <;> cases a <;> try rfl
  all_goals dsimp only [closeStep, St.sendAt]
  all_goals (repeat' split) <;> first | rfl | simp only [Option.map_map]; rfl

theorem abortStep_sendAt (s : St) (i j : Nat) (x : SendLoc) (loc : AbortLoc) :
    abortStep (s.sendAt i x) j loc = (abortStep s j loc).map (·.sendAt i x) := by
  cases loc <;> rfl

theorem receiveStep_sendAt (s : St) (i j : Nat) (x : SendLoc) (loc : ReceiveLoc) (a : CallAct) :
    receiveStep (s.sendAt i x) j loc a = (receiveStep s j loc a).map (·.sendAt i x) := by
  cases loc <;> cases a <;> try rfl
  all_goals dsimp only [receiveStep, St.sendAt]
  all_goals (repeat' split) <;> rfl

theorem sendStep_sendAt {i j : Nat} (hij : i ≠ j) (s : St) (x : SendLoc) (loc : SendLoc) (a : SendAct) :
    sendStep config (s.sendAt i x) j loc a = (sendStep config s j loc a).map (·.sendAt i x) := by
  cases loc <;> cases a <;> try rfl
  all_goals dsimp only [sendStep, St.sendAt]
  all_goals (repeat' split) <;>
    first | rfl | simp only [Option.map_some, List.set_comm _ _ hij]

/-- **A step of another process commutes with a move of send `i`.** -/
theorem step_sendAt {i : Nat} (x : SendLoc) (hi : i < s.sends.length) (hl : l.ofSend i = false)
    (hd : l ≠ .dropDriver) :
    step config (s.sendAt i x) l = (step config s l).map (·.sendAt i x) := by
  cases l with
  | reader a => exact readerStep_sendAt s i x _ a
  | writer a => exact writerStep_sendAt s i x _ a
  | watchdog j a =>
    simp only [step, Option.map_bind]
    exact Option.bind_congr fun loc _ => watchdogStep_sendAt s i j x loc a
  | close j a =>
    simp only [step, Option.map_bind]
    exact Option.bind_congr fun loc _ => closeStep_sendAt s i j x loc a
  | abort j =>
    simp only [step, Option.map_bind]
    exact Option.bind_congr fun loc _ => abortStep_sendAt s i j x loc
  | receive j a =>
    simp only [step, Option.map_bind]
    exact Option.bind_congr fun loc _ => receiveStep_sendAt s i j x loc a
  | send j a =>
    have hij : i ≠ j := Ne.symm (by simpa [Label.ofSend] using hl)
    have hget : (s.sendAt i x).sends[j]? = s.sends[j]? := List.getElem?_set_ne hij
    simp only [step, hget, Option.map_bind]
    exact Option.bind_congr fun loc _ => sendStep_sendAt hij s x loc a
  | callAdmit n =>
    have hset : s.sends.set i x ++ [SendLoc.start n] = (s.sends ++ [SendLoc.start n]).set i x :=
      (List.set_append_left _ _ hi).symm
    simp only [step, St.sendAt, hset, apply_ite (Option.map _), Option.map_some, Option.map_none]
  | callClose | callAbort | callReceive | dropFields =>
    simp only [step, apply_ite (Option.map _), Option.map_some, Option.map_none]; rfl
  | dropDriver => exact absurd rfl hd

/-! ## Runs -/

/-- The send has been answered, or will be: its command is with the driver. -/
def SendLoc.Sent : SendLoc → Prop
  | .response | .terminal | .returned _ | .dropped => True
  | _ => False

/-- A send whose command is with the driver only moves itself. -/
theorem sendStep_sent {i : Nat} {loc : SendLoc} {a : SendAct} (hloc : loc.Sent)
    (h : sendStep config s i loc a = some s') : ∃ loc', s' = s.sendAt i loc' ∧ loc'.Sent := by
  cases sendStep_rule h with
  | answered | unanswered | dropResponse | terminal => exact ⟨_, rfl, trivial⟩
  | _ => cases hloc

/-- The send is there, and its command is with the driver. -/
def St.sent (s : St) (i : Nat) : Prop := ∃ loc, s.sends[i]? = some loc ∧ loc.Sent

theorem sendAt_sendAt (s : St) (i : Nat) (x y : SendLoc) : (s.sendAt i x).sendAt i y = s.sendAt i y := by
  simp only [St.sendAt, List.set_set]

/-- What is idle stays idle when a send is dropped. -/
theorem idle_drop {i : Nat} (h : s.idle = true) : (s.sendAt i .dropped).idle = true := by
  simp only [St.idle, Bool.and_eq_true, List.all_eq_true] at h ⊢
  exact ⟨⟨h.1.1, Pool.forall_set h.1.2 rfl⟩, h.2⟩

/-- **One step with send `i` dropped**: its own steps vanish, the others are the same. -/
theorem step_detached {i : Nat} (hs : s.sent i) (hst : step config s l = some s') : s'.sent i ∧
    (l.ofSend i = true → s'.sendAt i .dropped = s.sendAt i .dropped) ∧
    (l.ofSend i = false → step config (s.sendAt i .dropped) l = some (s'.sendAt i .dropped)) := by
  obtain ⟨loc, hloc, hsent⟩ := hs
  have hi := (List.getElem?_eq_some_iff.mp hloc).1
  cases hl : l.ofSend i with
  | true =>
    obtain ⟨a, rfl, hown⟩ := step_own hl hloc hst
    obtain ⟨loc', rfl, hsent'⟩ := sendStep_sent hsent hown
    exact ⟨⟨loc', by simp [St.sendAt, hi], hsent'⟩, fun _ => sendAt_sendAt s i loc' .dropped,
      by rintro ⟨⟩⟩
  | false =>
    refine ⟨?_, by rintro ⟨⟩, fun _ => ?_⟩
    · rcases sendLoc_other hl hst with heq | ⟨hno, -⟩
      · exact ⟨loc, heq.trans hloc, hsent⟩
      · rw [hloc] at hno; cases hno
    · cases l with
      | dropDriver =>
        -- the one step that looks at all calls
        obtain ⟨⟨hal, hidle⟩, hst⟩ := Option.ite_none_right_eq_some.mp hst
        cases hst
        exact if_pos ⟨hal, idle_drop hidle⟩
      | _ => rw [step_sendAt _ hi hl (by rintro ⟨⟩), hst]; rfl

/-- **A dropped future changes no other part of any run.** -/
theorem run_detached {i : Nat} {ls : List Label} (hs : s.sent i)
    (h : Lts.run (step config) s ls = some s') :
    Lts.run (step config) (s.sendAt i .dropped) (ls.filter fun l => !l.ofSend i) =
      some (s'.sendAt i .dropped) := by
  refine Lts.run_filter (f := (·.sendAt i .dropped)) (P := (·.sent i)) (fun s l t hs hst => ?_) hs h
  obtain ⟨hsent, hown, hother⟩ := step_detached hs hst
  refine ⟨hsent, fun hl => hother ?_, fun hl => hown ?_⟩
  · simpa using hl
  · simpa using hl

/-- As long as the driver is not dropped, what runs with the future dropped is exactly what runs while
it is awaited: an awaited send holds an `Arc` of the driver. -/
theorem run_attached {i : Nat} {ls : List Label} (hs : s.sent i)
    (hls : ∀ l ∈ ls, l.ofSend i = false ∧ l ≠ .dropDriver) :
    Lts.run (step config) (s.sendAt i .dropped) ls =
      (Lts.run (step config) s ls).map (·.sendAt i .dropped) := by
  refine Lts.run_map (f := (·.sendAt i .dropped)) (P := (·.sent i)) (fun s l hs hl => ?_)
    (fun s l t hs hst => (step_detached hs hst).1) hs hls
  obtain ⟨loc, hloc, -⟩ := hs
  exact step_sendAt _ (List.getElem?_eq_some_iff.mp hloc).1 hl.1 hl.2

end FogWS
