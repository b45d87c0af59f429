import FogWS.Frames
/-!
# Coalesced flush requests

Reading a Ping puts the Pong into the library's write buffer, where it stays until the writer flushes. The
reader asks for that with `try_send` on a channel of four (driver.rs:483), and does not look whether the
request was taken.

| here | there |
| --- | --- |
| `Reply .queued` | the library has put a reply into its buffer |
| `Reply .yielded` | `reader.next()` has given the control frame it answers |
| `Reply .handled` | the reader has asked for a flush |
| `Begins` | `writer.flush()` or `writer.send()` begins; none of the three says more after that |
| `FlushPending` | a request is in the channel, or taken with its flush not begun |

A request that is discarded found the channel full of others. A pending request stays until the writer
begins a flush or is gone, so neither the shutdown signal nor the reader matters.
-/
namespace FogWS

variable {config : ConnectionConfig} {s s' : St} {l : Label}

/-! ## The life of a reply -/

/-- `writer.flush()` for a request begins. -/
def BeginsFlush (s : St) (l : Label) : Prop := l = .writer .next ∧ s.writer.loc = .flushStart

/-- `writer.flush()` for a request or `writer.send()` of a message begins. -/
def Begins (s : St) (l : Label) : Prop :=
  BeginsFlush s l ∨ l = .writer .next ∧ ∃ c, s.writer.loc = .sendStart c

/-- `Message::Ping(_) | Message::Pong(_)`. -/
def Message.isPingPong : Message → Bool
  | .ping _ | .pong _ => true
  | _ => false

inductive ReplyStage where
  | queued
  | yielded
  | handled

/-- A reply was queued after the writer last began a flush or a send, and has come to this stage. -/
inductive Reply (config : ConnectionConfig) : ReplyStage → St → Prop
  | queue {s : St} (hr : Reachable config s) : Reply config .queued s
  /-- Anything else happens. -/
  | wait {stage : ReplyStage} {s s' : St} {l : Label} (h : Reply config stage s) (hl : ¬Begins s l)
      (hown : stage = .yielded → ∀ a, l ≠ .reader a) (hst : step config s l = some s') :
      Reply config stage s'
  | yield {s s' : St} {m : Message} (h : Reply config .queued s) (hm : m.isPingPong = true)
      (hst : step config s (.reader (.item (some (.ok m)))) = some s') : Reply config .yielded s'
  | handle {s s' : St} (h : Reply config .yielded s) (hst : step config s (.reader .next) = some s') :
      Reply config .handled s'

def FlushPending (s : St) : Prop := s.control.queue ≠ [] ∨ s.writer.loc = .flushStart

/-! ## The control channel -/

/-- What `let _ = control.try_send(Flush)` leaves. -/
def coalesce (c : Mpsc WriterControl) : Mpsc WriterControl :=
  match c.trySend .flush with
  | .ok c => c
  | .error _ => c

theorem coalesce_queue {c : Mpsc WriterControl} (hopen : c.closed = false) (hload : 0 < c.load) :
    (coalesce c).queue ≠ [] := by
  by_cases hfree : 0 < c.free
  · simp [coalesce, Mpsc.trySend_of_free hopen hfree]
  · -- full of requests
    intro hq
    unfold coalesce at hq
    split at hq
    · rename_i hok
      exact hfree (Mpsc.trySend_ok hok).2.1
    · rw [Mpsc.load, hq] at hload
      exact hfree hload

theorem coalesce_keeps (c : Mpsc WriterControl) :
    (coalesce c).load = c.load ∧ (coalesce c).closed = c.closed ∧ (c.queue ≠ [] → (coalesce c).queue ≠ []) := by
  unfold coalesce
  split
  · rename_i hok
    obtain ⟨-, hfree, rfl⟩ := Mpsc.trySend_ok hok
    refine ⟨?_, rfl, by simp⟩
    simp only [Mpsc.load, List.length_append, List.length_singleton]
    omega
  · exact ⟨rfl, rfl, id⟩

/-- The reader touches the channel at one place. -/
theorem readerStep_control {loc : ReaderLoc} {a : ReaderAct} (hst : readerStep s loc a = some s') :
    (loc ≠ .control → s'.control = s.control) ∧ (loc = .control → s'.control = coalesce s.control) := by
  cases readerStep_rule hst with
  | control => exact ⟨fun h => absurd rfl h, fun _ => rfl⟩
  | kill hloc => exact ⟨fun _ => rfl, by rintro rfl; cases hloc⟩
  | _ => exact ⟨fun _ => rfl, by rintro ⟨⟩⟩

/-- What a step of the writer does with the control channel. -/
inductive ControlUse (s : St) (loc : WriterLoc) (a : WriterAct) (s' : St) : Prop
  | gone (h : s' = dropWriter s)
  | taken (hevents : loc = .events) (hrecv : s.control.recv = some (.flush, s'.control))
      (hloc : s'.writer.loc = .flushStart)
  | kept (hctl : s'.control = s.control) (hbegin : loc = .flushStart → a = .next)
      (hdone : loc.isDone = true → s'.writer.loc.isDone = true)

theorem writerStep_control {loc : WriterLoc} {a : WriterAct} (hst : writerStep s loc a = some s') :
    ControlUse s loc a s' := by
  cases writerStep_rule hst with
  | takeFlush control hrecv => exact .taken rfl hrecv rfl
  | flushStart => exact .kept rfl (fun _ => rfl) (by rintro ⟨⟩)
  | returned => exact .kept rfl (by rintro ⟨⟩) fun _ => rfl
  | leave | kill => exact .gone rfl
  | _ => exact .kept rfl (by rintro ⟨⟩) (by rintro ⟨⟩)

/-- Every slot is free or filled, and only the writer closes the channel. -/
structure ControlChannel (s : St) : Prop where
  load : s.control.load = 4
  closed : s.control.closed = true → s.writer.loc.isDone = true

theorem controlChannel_step (h : ControlChannel s) (hst : step config s l = some s') :
    ControlChannel s' := by
  have hsame : s'.control = s.control → s'.writer = s.writer → ControlChannel s' := by
    intro hctl hw
    exact ⟨by rw [hctl]; exact h.load, by rw [hctl, hw]; exact h.closed⟩
  cases step_move hst with
  | reader f hst =>
    obtain ⟨hother, hown⟩ := readerStep_control hst
    by_cases hloc : s.reader.loc = .control
    · obtain ⟨hload, hclosed, -⟩ := coalesce_keeps s.control
      rw [← hown hloc] at hload hclosed
      exact ⟨hload.trans h.load, by rw [hclosed, f.writer]; exact h.closed⟩
    · exact hsame (hother hloc) f.writer
  | writer f hst =>
    cases writerStep_control hst with
    | gone hs =>
      subst hs
      refine ⟨?_, fun _ => rfl⟩
      have hload := h.load
      simp only [Mpsc.load] at hload
      simp [dropWriter, Mpsc.dropReceiver, Mpsc.load, hload]
    | taken hevents hrecv hloc =>
      refine ⟨(Mpsc.load_recv hrecv).trans h.load, fun hcl => ?_⟩
      -- the receiver that takes a request is there
      rw [(Mpsc.recv_some hrecv).2.2] at hcl
      have hdone := h.closed hcl
      rw [hevents] at hdone
      cases hdone
    | kept hctl _ hdone =>
      exact ⟨by rw [hctl]; exact h.load, fun hcl => hdone (h.closed (hctl ▸ hcl))⟩
  | control f | send f | receive f => exact hsame f.control f.writer
  | _ => exact hsame rfl rfl

theorem controlChannel_reachable (hr : Reachable config s) : ControlChannel s :=
  hr.invariant ⟨rfl, by rintro ⟨⟩⟩ fun _ _ _ => controlChannel_step

/-- **A pending request stays** until the writer begins a flush or is gone. -/
theorem pending_step (h : s.writer.loc.isDone = true ∨ FlushPending s) (hl : ¬BeginsFlush s l)
    (hst : step config s l = some s') : s'.writer.loc.isDone = true ∨ FlushPending s' := by
  have hsame : (s.control.queue ≠ [] → s'.control.queue ≠ []) → s'.writer = s.writer →
      s'.writer.loc.isDone = true ∨ FlushPending s' := by
    intro hq hw
    rw [FlushPending, hw]
    exact h.imp_right (Or.imp_left hq)
  cases step_move hst with
  | reader f hst =>
    obtain ⟨hother, hown⟩ := readerStep_control hst
    by_cases hloc : s.reader.loc = .control
    · exact hsame (by rw [hown hloc]; exact (coalesce_keeps s.control).2.2) f.writer
    · exact hsame (by rw [hother hloc]; exact id) f.writer
  | writer _ hst =>
    cases writerStep_control hst with
    | gone hs => subst hs; exact .inl rfl
    | taken _ _ hloc => exact .inr (.inr hloc)
    | kept hctl hbegin hdone =>
      rcases h with h | h | h
      · exact .inl (hdone h)
      · exact .inr (.inl (by rw [hctl]; exact h))
      · exact absurd ⟨by rw [hbegin h], h⟩ hl
  | control f | send f | receive f => exact hsame (by rw [f.control]; exact id) f.writer
  | _ => exact hsame id rfl

/-! ## The result -/

/-- A control frame takes the reader to the place where it asks for a flush. -/
theorem readerStep_yields {loc : ReaderLoc} {m : Message} (hm : m.isPingPong = true)
    (hst : readerStep s loc (.item (some (.ok m))) = some s') : s'.reader.loc = .control := by
  cases readerStep_rule hst with
  | ping | pong => rfl
  | _ => cases hm

/-- **The request is pending** once the reader has asked, taken or not. -/
theorem readerStep_asks (hc : ControlChannel s) (hloc : s.reader.loc = .control)
    (hst : readerStep s s.reader.loc .next = some s') :
    s'.writer.loc.isDone = true ∨ FlushPending s' := by
  have hw := (readerStep_frame hst).writer
  have hctl := (readerStep_control hst).2 hloc
  by_cases hclosed : s.control.closed = true
  · exact .inl (by rw [hw]; exact hc.closed hclosed)
  · have hload : 0 < s.control.load := by rw [hc.load]; decide
    exact .inr (.inl (by rw [hctl]; exact coalesce_queue (by simpa using hclosed) hload))

/-- What is known of a reply at each stage. -/
def ReplyStage.Inv (s : St) : ReplyStage → Prop
  | .queued => True
  | .yielded => s.reader.loc = .control
  | .handled => s.writer.loc.isDone = true ∨ FlushPending s

theorem reply_inv {stage : ReplyStage} (h : Reply config stage s) : Reachable config s ∧ stage.Inv s := by
  induction h with
  | queue hr => exact ⟨hr, trivial⟩
  | @wait stage s s' l h hl hown hst ih =>
    obtain ⟨hr, hinv⟩ := ih
    refine ⟨hr.next hst, ?_⟩
    cases stage with
    | queued => trivial
    | yielded =>
      have heq := step_reader_eq (hown rfl) hst
      exact (congrArg Reader.loc heq).trans hinv
    | handled => exact pending_step hinv (fun hf => hl (.inl hf)) hst
  | yield h hm hst ih => exact ⟨ih.1.next hst, readerStep_yields hm hst⟩
  | handle h hst ih =>
    obtain ⟨hr, hloc⟩ := ih
    exact ⟨hr.next hst, readerStep_asks (controlChannel_reachable hr) hloc hst⟩

/-- **No reply is stranded.** Once the reader has handled a control frame whose reply was queued after the
writer last began a flush or a send, a request is pending while the writer lives; and it stays so, until
the writer begins a flush. -/
theorem no_reply_stranded (h : Reply config .handled s) (hw : s.writer.loc.isDone = false) :
    FlushPending s ∧ ∀ ls s', Lts.Path (step config) (fun s l => ¬BeginsFlush s l) s ls s' →
      s'.writer.loc.isDone = false → FlushPending s' := by
  have hpending : s.writer.loc.isDone = true ∨ FlushPending s := (reply_inv h).2
  constructor
  · exact hpending.resolve_left (by rw [hw]; exact Bool.false_ne_true)
  · intro ls s' hp hw'
    have hend := hp.invariant (P := fun s => s.writer.loc.isDone = true ∨ FlushPending s)
      (fun _ _ _ hP hl hst => pending_step hP hl hst) hpending
    exact hend.resolve_left (by rw [hw']; exact Bool.false_ne_true)

/-- The reader takes a Ping. -/
def takePing : Label := .reader (.item (some (.ok (.ping []))))

/-- The writer waits for events, and four requests of the reader are in the channel. -/
def floodRun : List Label := [.writer .next, .writer .next, .reader .next, .reader .next] ++
  (List.replicate 4 [takePing, .reader .next, .reader .next]).flatten

def flooded : St := Lts.after (step .tiny) (start .tiny) floodRun

/-- The request for the fifth reply is discarded. -/
theorem no_reply_stranded_flood :
    Lts.run (step .tiny) (start .tiny) floodRun = some flooded ∧ flooded.control.free = 0 ∧
      ∃ s s', step .tiny flooded takePing = some s ∧ step .tiny s (.reader .next) = some s' ∧
        s'.control.queue = flooded.control.queue ∧ FlushPending s' := by
  have hr : Reachable .tiny flooded := ⟨floodRun, rfl⟩
  have hyield : step .tiny flooded takePing = some (flooded.readerAt .control) := rfl
  have hask : step .tiny (flooded.readerAt .control) (.reader .next) =
      some { flooded.readerAt .top with control := flooded.control } := rfl
  exact ⟨rfl, rfl, _, _, hyield, hask, rfl,
    (no_reply_stranded (.handle (.yield (.queue hr) rfl hyield) hask) rfl).1⟩

end FogWS
