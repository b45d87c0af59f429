import FogWS.Lib.Lts
/-!
# A message session

What a connection is for, with nothing of how it is made: messages that arrive are delivered in order,
commands that are accepted are written in order, one at a time, and there is one outcome, which everybody is
told. A session may lose messages only while it goes down, and only its last ones: after a loss nothing that
arrives is delivered any more.

`μ` are the messages, `κ` the commands, each with a key that says whose it is, and `ε` the outcomes.
-/

structure Session (μ κ ε : Type) where
  /-- Messages that have arrived and are still to be delivered, oldest first. -/
  inbox : List μ
  /-- A message has been lost. -/
  cut : Bool
  /-- Commands accepted and not yet written, oldest first. -/
  outbox : List κ
  /-- The command being written. -/
  flight : List κ
  /-- The commands written, in order. -/
  sent : List κ
  /-- The session goes down. -/
  down : Bool
  outcome : Option ε
  /-- Nothing arrives any more. -/
  deaf : Bool
  /-- Nothing is written any more. -/
  mute : Bool
  deriving DecidableEq, Repr

namespace Session

inductive Event (μ κ ε : Type) where
  -- on the wire
  | arrive (message : μ)
  | write (command : κ)
  | written (command : κ)
  -- with the application
  | deliver (message : μ)
  /-- A receiver is told that there is nothing left. -/
  | exhausted (outcome : ε)
  | accept (command : κ)
  | answer (key : Nat) (result : Except ε Unit)
  /-- A closer is told that everything is gone. -/
  | closed (outcome : ε)
  -- of the session itself
  | begin
  | finish (outcome : ε)
  | lose
  | abandon
  | deafen
  | silence

variable {μ κ ε : Type}

def start : Session μ κ ε := ⟨[], false, [], [], [], false, none, false, false⟩

def step [DecidableEq μ] [DecidableEq κ] [DecidableEq ε] (key : κ → Nat) (s : Session μ κ ε) :
    Event μ κ ε → Option (Session μ κ ε)
  | .arrive m =>
    if s.deaf then none else some { s with inbox := if s.cut then s.inbox else s.inbox ++ [m] }
  | .deliver m => if s.inbox.head? = some m then some { s with inbox := s.inbox.tail } else none
  | .exhausted e => if s.deaf ∧ s.inbox = [] ∧ s.outcome = some e then some s else none
  | .accept c => some { s with outbox := s.outbox ++ [c] }
  | .write c =>
    if s.mute = false ∧ s.flight = [] ∧ s.outbox.head? = some c then
      some { s with outbox := s.outbox.tail, flight := [c] }
    else none
  | .written c =>
    if s.mute = false ∧ s.flight = [c] then some { s with flight := [], sent := s.sent ++ [c] } else none
  | .answer i (.ok ()) => if s.sent.any (key · == i) then some s else none
  | .answer _ (.error e) => if s.outcome = some e then some s else none
  | .closed e => if s.deaf ∧ s.mute ∧ s.outcome = some e then some s else none
  | .begin => some { s with down := true }
  | .finish e => if s.down ∧ s.outcome = none then some { s with outcome := some e } else none
  | .lose => if s.down ∧ s.cut = false then some { s with inbox := s.inbox.dropLast, cut := true } else none
  | .abandon => if s.outcome.isSome then some { s with inbox := [], cut := true } else none
  | .deafen => if s.outcome.isSome then some { s with deaf := true } else none
  | .silence => if s.outcome.isSome then some { s with mute := true } else none

/-! ## After the end -/

/-- The outcome an event makes or tells. -/
def Event.tells : Event μ κ ε → Option ε
  | .finish e | .exhausted e | .closed e | .answer _ (.error e) => some e
  | _ => none

/-- The event happens on the wire. -/
def Event.onWire : Event μ κ ε → Bool
  | .arrive _ | .write _ | .written _ => true
  | _ => false

/-- The event brings a message. -/
def Event.brings : Event μ κ ε → Bool
  | .arrive _ | .deliver _ => true
  | _ => false

def Event.isFinish : Event μ κ ε → Bool
  | .finish _ => true
  | _ => false

/-- What comes after the end in a sequence of events. -/
structure Ended (es : List (Event μ κ ε)) : Prop where
  /-- The outcome is made once, and everybody is told the same. -/
  outcome : ∀ as ev bs e, es = as ++ ev :: bs → ev.tells = some e →
    ∀ x ∈ bs, x.isFinish = false ∧ ∀ e', x.tells = some e' → e' = e
  /-- Nobody receives anything after a receiver has been told that there is nothing left. -/
  exhausted : ∀ as e bs, es = as ++ .exhausted e :: bs → ∀ x ∈ bs, x.brings = false
  /-- Nothing happens on the wire after a closer has been told that everything is gone. -/
  closed : ∀ as e bs, es = as ++ .closed e :: bs → ∀ x ∈ bs, x.onWire = false

section Steps

variable [DecidableEq μ] [DecidableEq κ] [DecidableEq ε] {key : κ → Nat} {s t : Session μ κ ε}
  {ev : Event μ κ ε} {es : List (Event μ κ ε)} {e : ε}

/-- The ways a step can go. -/
inductive Rule (key : κ → Nat) (s : Session μ κ ε) : Event μ κ ε → Session μ κ ε → Prop
  | arrive (m : μ) (h : s.deaf = false) :
      Rule key s (.arrive m) { s with inbox := if s.cut then s.inbox else s.inbox ++ [m] }
  | deliver (m : μ) (h : s.inbox.head? = some m) : Rule key s (.deliver m) { s with inbox := s.inbox.tail }
  | exhausted (e : ε) (hd : s.deaf = true) (hi : s.inbox = []) (ho : s.outcome = some e) :
      Rule key s (.exhausted e) s
  | accept (c : κ) : Rule key s (.accept c) { s with outbox := s.outbox ++ [c] }
  | write (c : κ) (hm : s.mute = false) (hf : s.flight = []) (ho : s.outbox.head? = some c) :
      Rule key s (.write c) { s with outbox := s.outbox.tail, flight := [c] }
  | written (c : κ) (hm : s.mute = false) (hf : s.flight = [c]) :
      Rule key s (.written c) { s with flight := [], sent := s.sent ++ [c] }
  | done (i : Nat) (h : s.sent.any (key · == i) = true) : Rule key s (.answer i (.ok ())) s
  | failed (i : Nat) (e : ε) (h : s.outcome = some e) : Rule key s (.answer i (.error e)) s
  | closed (e : ε) (hd : s.deaf = true) (hm : s.mute = true) (ho : s.outcome = some e) :
      Rule key s (.closed e) s
  | begin : Rule key s .begin { s with down := true }
  | finish (e : ε) (hd : s.down = true) (ho : s.outcome = none) :
      Rule key s (.finish e) { s with outcome := some e }
  | lose (hd : s.down = true) (hc : s.cut = false) :
      Rule key s .lose { s with inbox := s.inbox.dropLast, cut := true }
  | abandon (ho : s.outcome.isSome = true) : Rule key s .abandon { s with inbox := [], cut := true }
  | deafen (ho : s.outcome.isSome = true) : Rule key s .deafen { s with deaf := true }
  | silence (ho : s.outcome.isSome = true) : Rule key s .silence { s with mute := true }

theorem step_rule (h : step key s ev = some t) : Rule key s ev t := by
  unfold step at h
  split at h
  · split at h
    · cases h
    · cases h; exact .arrive _ (Bool.not_eq_true _ ▸ ‹_›)
  · obtain ⟨hg, h⟩ := Option.ite_none_right_eq_some.mp h
    cases h; exact .deliver _ hg
  · obtain ⟨⟨hd, hi, ho⟩, h⟩ := Option.ite_none_right_eq_some.mp h
    cases h; exact .exhausted _ hd hi ho
  · cases h; exact .accept _
  · obtain ⟨⟨hm, hf, ho⟩, h⟩ := Option.ite_none_right_eq_some.mp h
    cases h; exact .write _ hm hf ho
  · obtain ⟨⟨hm, hf⟩, h⟩ := Option.ite_none_right_eq_some.mp h
    cases h; exact .written _ hm hf
  · obtain ⟨hg, h⟩ := Option.ite_none_right_eq_some.mp h
    cases h; exact .done _ hg
  · obtain ⟨hg, h⟩ := Option.ite_none_right_eq_some.mp h
    cases h; exact .failed _ _ hg
  · obtain ⟨⟨hd, hm, ho⟩, h⟩ := Option.ite_none_right_eq_some.mp h
    cases h; exact .closed _ hd hm ho
  · cases h; exact .begin
  · obtain ⟨⟨hd, ho⟩, h⟩ := Option.ite_none_right_eq_some.mp h
    cases h; exact .finish _ hd ho
  · obtain ⟨⟨hd, hc⟩, h⟩ := Option.ite_none_right_eq_some.mp h
    cases h; exact .lose hd hc
  · obtain ⟨ho, h⟩ := Option.ite_none_right_eq_some.mp h
    cases h; exact .abandon ho
  · obtain ⟨ho, h⟩ := Option.ite_none_right_eq_some.mp h
    cases h; exact .deafen ho
  · obtain ⟨ho, h⟩ := Option.ite_none_right_eq_some.mp h
    cases h; exact .silence ho

/-- Whoever tells the outcome, or makes it, leaves it in the session. -/
theorem outcome_of_tells (h : step key s ev = some t) (he : ev.tells = some e) : t.outcome = some e := by
  cases step_rule h with
  | exhausted _ _ _ ho | failed _ _ ho | closed _ _ _ ho => cases he; exact ho
  | finish => exact he
  | _ => cases he

theorem step_outcome (ho : s.outcome = some e) (h : step key s ev = some t) :
    t.outcome = some e ∧ ev.isFinish = false ∧ ∀ e', ev.tells = some e' → e' = e := by
  cases step_rule h with
  | exhausted e' _ _ he | failed _ e' he | closed e' _ _ he =>
    refine ⟨ho, rfl, ?_⟩
    rintro _ ⟨⟩
    exact Option.some.inj (he.symm.trans ho)
  | finish _ _ hn => rw [hn] at ho; cases ho
  | _ => exact ⟨ho, rfl, by rintro _ ⟨⟩⟩

theorem step_exhausted (hs : s.deaf = true ∧ s.inbox = []) (h : step key s ev = some t) :
    (t.deaf = true ∧ t.inbox = []) ∧ ev.brings = false := by
  cases step_rule h with
  | arrive _ hd => rw [hs.1] at hd; cases hd
  | deliver _ hi => rw [hs.2] at hi; cases hi
  | lose => exact ⟨⟨hs.1, by rw [hs.2]; rfl⟩, rfl⟩
  | abandon => exact ⟨⟨hs.1, rfl⟩, rfl⟩
  | deafen => exact ⟨⟨rfl, hs.2⟩, rfl⟩
  | _ => exact ⟨hs, rfl⟩

theorem step_gone (hs : s.deaf = true ∧ s.mute = true) (h : step key s ev = some t) :
    (t.deaf = true ∧ t.mute = true) ∧ ev.onWire = false := by
  cases step_rule h with
  | arrive _ hd => rw [hs.1] at hd; cases hd
  | write _ hm | written _ hm => rw [hs.2] at hm; cases hm
  | deafen => exact ⟨⟨rfl, hs.2⟩, rfl⟩
  | silence => exact ⟨⟨hs.1, rfl⟩, rfl⟩
  | _ => exact ⟨hs, rfl⟩

/-- A run, cut at one of its events. -/
theorem run_at {as bs : List (Event μ κ ε)} (h : Lts.run (step key) s (as ++ ev :: bs) = some t) :
    ∃ u v, step key u ev = some v ∧ Lts.run (step key) v bs = some t := by
  rw [Lts.run_append] at h
  obtain ⟨u, -, h⟩ := Option.bind_eq_some_iff.mp h
  obtain ⟨v, hv, h⟩ := Option.bind_eq_some_iff.mp h
  exact ⟨u, v, hv, h⟩

/-- **Every run of a session ends well.** -/
theorem ended_of_run (h : Lts.run (step key) s es = some t) : Ended es := by
  constructor
  · rintro as ev bs e rfl he
    obtain ⟨u, v, hv, hrun⟩ := run_at h
    exact Lts.forall_of_run (P := fun s => s.outcome = some e) (fun _ _ _ => step_outcome)
      (outcome_of_tells hv he) hrun
  · rintro as e bs rfl
    obtain ⟨u, v, hv, hrun⟩ := run_at h
    cases step_rule hv with
    | exhausted _ hd hi => exact Lts.forall_of_run (fun _ _ _ => step_exhausted) ⟨hd, hi⟩ hrun
  · rintro as e bs rfl
    obtain ⟨u, v, hv, hrun⟩ := run_at h
    cases step_rule hv with
    | closed _ hd hm => exact Lts.forall_of_run (fun _ _ _ => step_gone) ⟨hd, hm⟩ hrun

end Steps

end Session
