import FogWS.Runtime
/-!
# Who may use a connection

A connection belongs to the process that made it. A child has a copy of it, which must not be touched: the
tasks of its driver do not run there, and what Tokio keeps beside it is in whatever state the other threads
left it in.

`OWNER_PROCESS` tells child and parent apart by their numbers. That is enough as long as no child is given
the number its memory remembers, and the system gives a number again once its process is dead: after a
process has forked and ended, a grandchild may be given its number. `inherited_isolated_iff` says that this
is the one way in.

| here | there |
| --- | --- |
| `PyConnection.Move` | what an act can do to a connection |
| `Process.Change` | what an act can do to a process |
| `World.fresh` | no child takes the number its memory remembers |
| `Isolated` | inherited connections cannot be reached, whatever is tried |
| `AtHome` | a connection in the process that made it |
-/
namespace FogWS

variable {env : Env} {p pid k : Nat} {proc proc' : Process} {c c' : PyConnection} {w w' : World} {a : Act}

/-! ## The guards -/

theorem isOwner_iff {o : Option Nat} : isOwnerProcess o pid = true ↔ o = none ∨ o = some pid := by
  cases o <;> simp [isOwnerProcess]

/-- A process claims what nobody has claimed. -/
theorem claim_owner {o : Option Nat} (h : isOwnerProcess o pid = true) :
    claimOrValidateProcess o pid = (.ok (), some pid) := by
  rcases isOwner_iff.mp h with rfl | rfl <;> simp [claimOrValidateProcess]

theorem claim_other {o : Option Nat} (h : isOwnerProcess o pid = false) :
    claimOrValidateProcess o pid = (.error .otherProcess, o) := by
  cases o with
  | none => cases h
  | some owner =>
    have hne : owner ≠ pid := by simpa [isOwnerProcess] using h
    simp [claimOrValidateProcess, hne]

/-- What a guard leaves in `OWNER_PROCESS`. -/
def Claims (proc : Process) (o : Option Nat) : Prop :=
  o = proc.ownerProcess ∨ proc.ownerProcess = none ∧ o = some proc.pid

theorem Claims.kept {o : Option Nat} (h : Claims proc o) (hsome : proc.ownerProcess ≠ none) :
    o = proc.ownerProcess := by
  rcases h with h | ⟨hnone, -⟩
  · exact h
  · exact absurd hnone hsome

/-- An owner that passes the guard has claimed its process. -/
theorem claims_owner (h : isOwnerProcess proc.ownerProcess proc.pid = true) : Claims proc (some proc.pid) := by
  rcases isOwner_iff.mp h with hnone | hsome
  · exact .inr ⟨hnone, rfl⟩
  · exact .inl hsome.symm

theorem validate_claims {current main : InterpreterIdentity} :
    Claims proc (validateImportContext proc.ownerProcess proc.pid current main).2 := by
  unfold validateImportContext
  cases ensureMainInterpreter current main with
  | error e => exact .inl rfl
  | ok =>
    cases howner : isOwnerProcess proc.ownerProcess proc.pid with
    | true => rw [claim_owner howner]; exact claims_owner howner
    | false => rw [claim_other howner]; exact .inl rfl

/-- A guard lets the owner through on its loop. -/
theorem affinity_owner {ownerLoop : Nat} {running : Option Nat}
    (h : isOwnerProcess proc.ownerProcess proc.pid = true) :
    ensureLoopAffinity proc.ownerProcess proc.pid ownerLoop running =
      (match running with
        | none => .error .noLoop
        | some loop => if loop ≠ ownerLoop then .error .otherLoop else .ok (), some proc.pid) := by
  unfold ensureLoopAffinity
  rw [claim_owner h]
  cases running <;> rfl

theorem affinity_other {ownerLoop : Nat} {running : Option Nat}
    (h : isOwnerProcess proc.ownerProcess proc.pid = false) :
    ensureLoopAffinity proc.ownerProcess proc.pid ownerLoop running =
      (.error .otherProcess, proc.ownerProcess) := by
  unfold ensureLoopAffinity
  rw [claim_other h]

theorem connectConfig_accepted {args : ConnectArgs} {config : ConnectionConfig}
    (h : connectConfig env.bits args = .ok config) : config.Accepted env.bits := by
  unfold connectConfig at h
  repeat (split at h; · cases h)
  rename_i hnew
  cases h
  exact (ConnectionConfig.new_ok_iff.mp hnew).1

/-! ## What an act can do -/

/-- A call of the driver. -/
def Label.isCall : Label → Bool
  | .callClose | .callAbort | .callAdmit _ | .callReceive => true
  | _ => false

theorem Entry.isCall {entry : Entry} {config : ConnectionConfig} {state : DriverState} {l : Label}
    (h : entry.call config state = .ok (some l)) : l.isCall = true := by
  cases entry with
  | ensureContext => cases h
  | sendText payload =>
    simp only [Entry.call] at h
    split at h
    · cases h
    · split at h
      · cases h
      · cases h; rfl
  | sendBytes payload | receive | close => cases h; rfl

/-- How an act of process `p` changes a connection. -/
inductive PyConnection.Move (p : Nat) (proc : Process) (c : PyConnection) : PyConnection → Prop
  | same : Move p proc c c
  | call {l : Label} {driver : St} (hheld : c.handle = .held)
      (howner : isOwnerProcess proc.ownerProcess proc.pid = true) (hl : l.isCall = true)
      (hst : step c.config c.driver l = some driver) : Move p proc c { c with driver }
  | release (hheld : c.handle = .held) (howner : isOwnerProcess proc.ownerProcess proc.pid = true) :
      Move p proc c { c with handle := .released }
  | forget (hheld : c.handle = .held) (hother : isOwnerProcess proc.ownerProcess proc.pid = false) :
      Move p proc c { c with handle := .forgotten }
  | native {l : Label} {driver : St} (hhome : c.home = p) (hl : l.isNative c.handle = true)
      (hfit : l.fits c.config = true) (hst : step c.config c.driver l = some driver) :
      Move p proc c { c with driver }

/-- How an act of process `p` that is not `exec` changes the process. -/
inductive Process.Change (env : Env) (p : Nat) (proc : Process) : Process → Prop
  | guard {ownerProcess : Option Nat} {loaded alive : Bool} (ho : Claims proc ownerProcess) :
      Change env p proc { proc with ownerProcess, loaded, alive }
  | request {c : Connecting} (howner : isOwnerProcess proc.ownerProcess proc.pid = true)
      (hc : c.config.Accepted env.bits) :
      Change env p proc
        { proc with ownerProcess := some proc.pid, connecting := proc.connecting ++ [c] }
  | fail {j : Nat} : Change env p proc { proc with connecting := proc.connecting.eraseIdx j }
  | connected {j : Nat} {c : Connecting} (hc : c ∈ proc.connecting) :
      Change env p proc
        { proc with
          connecting := proc.connecting.eraseIdx j
          connections := proc.connections ++ [⟨.held, start c.config, c.config, c.ownerLoop, p⟩] }
  | move {ownerProcess : Option Nat} {k : Nat} {c c' : PyConnection} (ho : Claims proc ownerProcess)
      (hk : proc.connections[k]? = some c) (hm : c.Move p proc c') :
      Change env p proc ({ proc with ownerProcess }.connectionAt k c')

/-- A step that may not be there is a call, or nothing. -/
theorem PyConnection.Move.ofCall {l : Label} (hheld : c.handle = .held)
    (howner : isOwnerProcess proc.ownerProcess proc.pid = true) (hl : l.isCall = true) :
    c.Move p proc { c with driver := (step c.config c.driver l).getD c.driver } := by
  cases hst : step c.config c.driver l with
  | none => exact .same
  | some driver => exact .call hheld howner hl hst

theorem connect_change {running : Option Nat} {args : ConnectArgs} :
    Process.Change env p proc (proc.connect env running args).2 := by
  unfold Process.connect
  cases howner : isOwnerProcess proc.ownerProcess proc.pid with
  | false => rw [claim_other howner]; exact .guard (.inl rfl)
  | true =>
    rw [claim_owner howner]
    dsimp only
    split
    · exact .guard (claims_owner howner)
    · split
      · exact .guard (claims_owner howner)
      · exact .request howner (connectConfig_accepted ‹_›)

theorem connected_change {j : Nat} {c : Connecting} {attempt : Except String Unit}
    (hc : proc.connecting[j]? = some c) :
    Process.Change env p proc (proc.connected env p j c attempt).2 := by
  unfold Process.connected Process.startDriver
  cases clientConnect env.host env.portU16 c.request with
  | error e => exact .fail
  | ok uri =>
    cases attempt with
    | error e => exact .fail
    | ok => exact .connected (List.mem_of_getElem? hc)

theorem call_change {running : Option Nat} {entry : Entry} (hk : proc.connections[k]? = some c)
    (hheld : c.handle = .held) : Process.Change env p proc (proc.call k c running entry).2 := by
  unfold Process.call
  cases howner : isOwnerProcess proc.ownerProcess proc.pid with
  | false => rw [affinity_other howner]; exact .guard (.inl rfl)
  | true =>
    have hclaim := claims_owner howner
    rw [affinity_owner howner]
    cases running with
    | none => exact .guard hclaim
    | some loop =>
      by_cases hloop : loop = c.ownerLoop
      · simp only [hloop, ne_eq, not_true, if_false]
        split
        · exact .guard hclaim
        · exact .guard hclaim
        · exact .move hclaim hk (.ofCall hheld howner (Entry.isCall ‹_›))
      · simp only [ne_eq, hloop, not_false_eq_true, if_true]
        exact .guard hclaim

/-- **What an act can do.** -/
theorem process_change (h : processStep env p proc a = some proc') :
    a = .exec ∧ proc' = .new proc.pid ∨ Process.Change env p proc proc' := by
  cases a with
  | load current main =>
    cases h
    refine .inr ?_
    have hclaims : Claims proc (validateImportContext proc.ownerProcess proc.pid current main).2 :=
      validate_claims
    unfold Process.load
    generalize validateImportContext proc.ownerProcess proc.pid current main = r at hclaims
    obtain ⟨r, o⟩ := r
    cases r <;> exact .guard hclaims
  | connect running args =>
    obtain ⟨-, h⟩ := Option.ite_none_right_eq_some.mp h
    cases h; exact .inr connect_change
  | connected j attempt =>
    obtain ⟨c, hc, rfl⟩ := Option.map_eq_some_iff.mp h
    exact .inr (connected_change hc)
  | call k running entry =>
    obtain ⟨c, hk, h⟩ := Option.bind_eq_some_iff.mp h
    obtain ⟨hheld, h⟩ := Option.ite_none_right_eq_some.mp h
    cases h; exact .inr (call_change hk hheld)
  | abort k =>
    obtain ⟨c, hk, h⟩ := Option.bind_eq_some_iff.mp h
    obtain ⟨hheld, h⟩ := Option.ite_none_right_eq_some.mp h
    cases h
    unfold Process.abort
    split
    · exact .inr (.move (.inl rfl) hk (.ofCall hheld ‹_› rfl))
    · exact .inr (.guard (.inl rfl))
  | collect k =>
    obtain ⟨c, hk, h⟩ := Option.bind_eq_some_iff.mp h
    obtain ⟨hheld, h⟩ := Option.ite_none_right_eq_some.mp h
    cases h
    unfold Process.collect
    cases howner : isOwnerProcess proc.ownerProcess proc.pid with
    | true => exact .inr (.move (.inl rfl) hk (.release hheld howner))
    | false => exact .inr (.move (.inl rfl) hk (.forget hheld howner))
  | native k l =>
    obtain ⟨c, hk, h⟩ := Option.bind_eq_some_iff.mp h
    obtain ⟨c', hc', rfl⟩ := Option.map_eq_some_iff.mp h
    obtain ⟨⟨hhome, hl, hfit⟩, hmap⟩ := Option.ite_none_right_eq_some.mp hc'
    obtain ⟨driver, hst, rfl⟩ := Option.map_eq_some_iff.mp hmap
    exact .inr (.move (.inl rfl) hk (.native hhome hl hfit hst))
  | exec => cases h; exact .inl ⟨rfl, rfl⟩
  | exit => cases h; exact .inr (.guard (.inl rfl))

/-! ## What is known of every process -/

/-- The driver has come from its start by a run of its own. -/
def PyConnection.Driven (c : PyConnection) : Prop :=
  ∃ ls, Lts.run (step c.config) (start c.config) ls = some c.driver ∧ ∀ l ∈ ls, l.fits c.config = true

theorem PyConnection.Driven.next {l : Label} {driver : St} (h : c.Driven) (hfit : l.fits c.config = true)
    (hst : step c.config c.driver l = some driver) : PyConnection.Driven { c with driver } := by
  obtain ⟨ls, hrun, hls⟩ := h
  refine ⟨ls ++ [l], ?_, fun x hx => ?_⟩
  · simp only [Lts.run_append, hrun, Option.bind_some, Lts.run_cons, hst]
    rfl
  · rcases List.mem_append.mp hx with hx | hx
    · exact hls x hx
    · exact List.mem_singleton.mp hx ▸ hfit

/-- What is known of a connection in process `p`, of this number, that remembers this owner. -/
structure PyConnection.Ok (env : Env) (p pid : Nat) (owner : Option Nat) (c : PyConnection) : Prop where
  /-- It was made here, or in an older process. -/
  home : c.home ≤ p
  accepted : c.config.Accepted env.bits
  driven : c.Driven
  held : c.handle = .held → c.driver.driver = .alive
  claimed : owner ≠ none
  own : c.home = p → owner = some pid ∧ c.handle ≠ .forgotten

structure Process.Ok (env : Env) (p : Nat) (proc : Process) : Prop where
  connecting : ∀ c ∈ proc.connecting, c.config.Accepted env.bits ∧ proc.ownerProcess = some proc.pid
  connections : ∀ c ∈ proc.connections, c.Ok env p proc.pid proc.ownerProcess

theorem Label.isCall_fits {l : Label} (h : l.isCall = true) (config : ConnectionConfig) :
    l.fits config = true := by
  cases l <;> first | rfl | cases h

/-- A call leaves the driver as alive as it is. -/
theorem call_alive {config : ConnectionConfig} {s s' : St} {l : Label} (hl : l.isCall = true)
    (hst : step config s l = some s') : s'.driver = s.driver := by
  cases l with
  | callClose | callAbort | callAdmit | callReceive =>
    obtain ⟨-, hst⟩ := Option.ite_none_right_eq_some.mp hst
    cases hst; rfl
  | _ => cases hl

/-- As long as its handle is held, a driver is not dropped. -/
theorem native_alive {config : ConnectionConfig} {s s' : St} {l : Label}
    (hl : l.isNative .held = true) (hal : s.driver = .alive) (hst : step config s l = some s') :
    s'.driver = .alive := by
  cases step_move hst with
  | reader f | writer f | control f | send f | receive f => exact f.driver.trans hal
  | callAdmit | callReceive => exact hal
  | dropDriver => cases hl
  | dropFields hd => rw [hal] at hd; cases hd

theorem PyConnection.Ok.move {owner : Option Nat} (h : c.Ok env p pid owner) (hpid : proc.pid = pid)
    (howner : proc.ownerProcess = owner) (hm : c.Move p proc c') : c'.Ok env p pid owner := by
  subst hpid howner
  cases hm with
  | same => exact h
  | call _ _ hl hst =>
    exact { h with
      driven := h.driven.next (Label.isCall_fits hl _) hst
      held := fun hh => (call_alive hl hst).trans (h.held hh) }
  | release => exact { h with held := by rintro ⟨⟩, own := fun hp => ⟨(h.own hp).1, by rintro ⟨⟩⟩ }
  | forget _ hother =>
    refine { h with held := by rintro ⟨⟩, own := fun hp => ?_ }
    rw [isOwner_iff.mpr (.inr (h.own hp).1)] at hother
    cases hother
  | native _ hl hfit hst =>
    refine { h with driven := h.driven.next hfit hst, held := fun hh => ?_ }
    dsimp only at hh
    rw [hh] at hl
    exact native_alive hl (h.held hh) hst

/-- A new connection is its process's own. -/
theorem Process.Ok.newConnection (h : proc.Ok env p) {c : Connecting} (hc : c ∈ proc.connecting) :
    PyConnection.Ok env p proc.pid proc.ownerProcess
      ⟨.held, start c.config, c.config, c.ownerLoop, p⟩ := by
  obtain ⟨hacc, howner⟩ := h.connecting c hc
  exact ⟨Nat.le_refl p, hacc, ⟨[], rfl, List.forall_mem_nil _⟩, fun _ => rfl, by rw [howner]; simp,
    fun _ => ⟨howner, by rintro ⟨⟩⟩⟩

theorem Process.Ok.change (h : proc.Ok env p) (hc : Process.Change env p proc proc') : proc'.Ok env p := by
  have hkeep : ∀ o, Claims proc o → ∀ c ∈ proc.connections, c.Ok env p proc.pid o := fun o ho c hc =>
    ho.kept (h.connections c hc).claimed ▸ h.connections c hc
  have hkeep' : ∀ o, Claims proc o → ∀ c ∈ proc.connecting,
      c.config.Accepted env.bits ∧ o = some proc.pid := fun o ho c hc => by
    obtain ⟨hacc, howner⟩ := h.connecting c hc
    exact ⟨hacc, (ho.kept (by rw [howner]; simp)).trans howner⟩
  cases hc with
  | guard ho => exact ⟨hkeep' _ ho, hkeep _ ho⟩
  | request howner hacc =>
    have hclaim := claims_owner howner
    exact ⟨Pool.forall_snoc (hkeep' _ hclaim) ⟨hacc, rfl⟩, hkeep _ hclaim⟩
  | fail => exact ⟨fun c hc => h.connecting c (List.mem_of_mem_eraseIdx hc), h.connections⟩
  | connected hc =>
    exact ⟨fun c hc => h.connecting c (List.mem_of_mem_eraseIdx hc),
      Pool.forall_snoc h.connections (h.newConnection hc)⟩
  | move ho hk hm =>
    refine ⟨hkeep' _ ho, Pool.forall_set (hkeep _ ho) ?_⟩
    have hok := h.connections _ (List.mem_of_getElem? hk)
    exact ho.kept hok.claimed ▸ hok.move rfl rfl hm

/-! ## Inherited connections -/

/-- The connections that `proc` inherited and holds are safe from it. -/
def Process.Apart (p : Nat) (proc : Process) : Prop :=
  ∀ c ∈ proc.connections, c.home ≠ p → c.handle = .held → proc.ownerProcess ≠ some proc.pid

theorem PyConnection.Move.home_eq (h : c.Move p proc c') : c'.home = c.home := by
  cases h <;> rfl

theorem PyConnection.Move.wasHeld (h : c.Move p proc c') (hheld : c'.handle = .held) : c.handle = .held := by
  cases h with
  | release | forget => cases hheld
  | _ => exact hheld

theorem Process.Apart.change (hok : proc.Ok env p) (h : proc.Apart p) (hc : Process.Change env p proc proc') :
    proc'.Apart p := by
  have hkeep : ∀ o, Claims proc o → ∀ c ∈ proc.connections, c.home ≠ p → c.handle = .held →
      o ≠ some proc.pid := fun o ho c hc => ho.kept (hok.connections c hc).claimed ▸ h c hc
  cases hc with
  | guard ho => exact hkeep _ ho
  | request howner => exact hkeep _ (claims_owner howner)
  | fail => exact h
  | connected => exact Pool.forall_snoc h fun hne => absurd rfl hne
  | move ho hk hm =>
    exact Pool.forall_set (hkeep _ ho) fun hhome hheld =>
      hkeep _ ho _ (List.mem_of_getElem? hk) (hm.home_eq ▸ hhome) (hm.wasHeld hheld)

/-- It is as it was, or has been set aside for good. -/
def PyConnection.Quarantined (c c' : PyConnection) : Prop :=
  c' = c ∨ c.handle = .held ∧ c' = { c with handle := .forgotten }

/-- A process that is not the owner cannot move what it inherited. -/
theorem PyConnection.Move.quarantined
    (hother : c.handle = .held → isOwnerProcess proc.ownerProcess proc.pid = false) (hhome : c.home ≠ p)
    (h : c.Move p proc c') : c.Quarantined c' := by
  cases h with
  | same => exact .inl rfl
  | call hheld howner | release hheld howner => rw [hother hheld] at howner; cases howner
  | forget hheld => exact .inr ⟨hheld, rfl⟩
  | native hp => exact absurd hp hhome

theorem PyConnection.Quarantined.trans {c'' : PyConnection} (h : c.Quarantined c')
    (h' : c'.Quarantined c'') : c.Quarantined c'' := by
  rcases h with rfl | ⟨hheld, rfl⟩
  · exact h'
  · rcases h' with rfl | ⟨hh, -⟩
    · exact .inr ⟨hheld, rfl⟩
    · cases hh

theorem PyConnection.Quarantined.home_eq (h : c.Quarantined c') : c'.home = c.home := by
  rcases h with rfl | ⟨-, rfl⟩ <;> rfl

theorem Process.Ok.notOwner (hok : proc.Ok env p) (h : proc.Apart p) (hc : c ∈ proc.connections)
    (hhome : c.home ≠ p) (hheld : c.handle = .held) :
    isOwnerProcess proc.ownerProcess proc.pid = false := by
  have hne := h c hc hhome hheld
  have hsome := (hok.connections c hc).claimed
  by_contra hown
  rcases isOwner_iff.mp (Bool.eq_true_of_not_eq_false hown) with hn | hs
  · exact hsome hn
  · exact hne hs

theorem change_quarantined (hok : proc.Ok env p) (h : proc.Apart p) (hk : proc.connections[k]? = some c)
    (hhome : c.home ≠ p) (hc : Process.Change env p proc proc') :
    ∃ c', proc'.connections[k]? = some c' ∧ c.Quarantined c' := by
  have hother := hok.notOwner h (List.mem_of_getElem? hk) hhome
  cases hc with
  | guard | request | fail => exact ⟨c, hk, .inl rfl⟩
  | connected =>
    have hlt := (List.getElem?_eq_some_iff.mp hk).1
    exact ⟨c, (List.getElem?_append_left hlt).trans hk, .inl rfl⟩
  | move ho hk' hm =>
    rename_i j x x'
    by_cases hj : j = k
    · subst hj
      rw [hk] at hk'
      cases hk'
      exact ⟨x', List.getElem?_set_self (List.getElem?_eq_some_iff.mp hk).1, hm.quarantined hother hhome⟩
    · exact ⟨c, (List.getElem?_set_ne hj).trans hk, .inl rfl⟩

/-! ## The steps of the world -/

/-- No child that holds a connection takes the number that its memory remembers. -/
def World.fresh (w : World) : WorldLabel → Prop
  | .fork p pid => ∀ proc : Process, w[p]? = some proc → ∀ c ∈ proc.connections, c.handle = .held →
      proc.ownerProcess ≠ some pid
  | _ => True

def World.Ok (env : Env) (w : World) : Prop :=
  ∀ (p : Nat) (proc : Process), w[p]? = some proc → proc.Ok env p

def World.Apart (w : World) : Prop :=
  ∀ (p : Nat) (proc : Process), w[p]? = some proc → proc.Apart p

/-- **What a step can do.** -/
theorem world_cases {l : WorldLabel} (h : worldStep env w l = some w') :
    (∃ pid, l = .spawn pid ∧ w' = w ++ [.new pid]) ∨
    (∃ p pid proc, l = .fork p pid ∧ w[p]? = some proc ∧ w' = w ++ [proc.forked pid]) ∨
    ∃ p a proc proc', l = .act p a ∧ w[p]? = some proc ∧ processStep env p proc a = some proc' ∧
      w' = w.set p proc' := by
  cases l with
  | spawn pid =>
    obtain ⟨-, h⟩ := Option.ite_none_right_eq_some.mp h
    cases h; exact .inl ⟨pid, rfl, rfl⟩
  | fork p pid =>
    obtain ⟨proc, hp, h⟩ := Option.bind_eq_some_iff.mp h
    obtain ⟨-, h⟩ := Option.ite_none_right_eq_some.mp h
    cases h; exact .inr (.inl ⟨p, pid, proc, rfl, hp, rfl⟩)
  | act p a =>
    obtain ⟨proc, hp, h⟩ := Option.bind_eq_some_iff.mp h
    obtain ⟨-, h⟩ := Option.ite_none_right_eq_some.mp h
    obtain ⟨proc', hst, rfl⟩ := Option.map_eq_some_iff.mp h
    exact .inr (.inr ⟨p, a, proc, proc', rfl, hp, hst, rfl⟩)

theorem Process.new_ok (env : Env) (p pid : Nat) : (Process.new pid).Ok env p :=
  ⟨List.forall_mem_nil _, List.forall_mem_nil _⟩

/-- What a child inherits is not its own. -/
theorem Process.Ok.forked (h : proc.Ok env p) {q : Nat} (hq : p < q) : (proc.forked pid).Ok env q where
  connecting := List.forall_mem_nil _
  connections c hc :=
    have hok := h.connections c hc
    have hhome : c.home < q := Nat.lt_of_le_of_lt hok.home hq
    { hok with
      home := Nat.le_of_lt hhome
      own := fun he => absurd he (Nat.ne_of_lt hhome) }

theorem world_ok_step {l : WorldLabel} (h : w.Ok env) (hst : worldStep env w l = some w') : w'.Ok env := by
  obtain ⟨pid, rfl, rfl⟩ | ⟨p, pid, proc, rfl, hp, rfl⟩ | ⟨p, a, proc, proc', rfl, hp, hact, rfl⟩ :=
    world_cases hst
  · intro q x hx
    rcases Pool.get_snoc hx with hx | ⟨rfl, rfl⟩
    · exact h q x hx
    · exact Process.new_ok env _ pid
  · intro q x hx
    rcases Pool.get_snoc hx with hx | ⟨rfl, rfl⟩
    · exact h q x hx
    · exact (h p proc hp).forked (List.getElem?_eq_some_iff.mp hp).1
  · intro q x hx
    rcases Pool.get_set hx with hx | ⟨rfl, rfl⟩
    · exact h q x hx
    · rcases process_change hact with ⟨-, rfl⟩ | hc
      · exact Process.new_ok env _ _
      · exact (h p proc hp).change hc

theorem world_apart_step {l : WorldLabel} (hok : w.Ok env) (h : w.Apart) (hfresh : w.fresh l)
    (hst : worldStep env w l = some w') : w'.Apart := by
  obtain ⟨pid, rfl, rfl⟩ | ⟨p, pid, proc, rfl, hp, rfl⟩ | ⟨p, a, proc, proc', rfl, hp, hact, rfl⟩ :=
    world_cases hst
  · intro q x hx
    rcases Pool.get_snoc hx with hx | ⟨rfl, rfl⟩
    · exact h q x hx
    · exact List.forall_mem_nil _
  · intro q x hx
    rcases Pool.get_snoc hx with hx | ⟨rfl, rfl⟩
    · exact h q x hx
    · exact fun c hc _ => hfresh proc hp c hc
  · intro q x hx
    rcases Pool.get_set hx with hx | ⟨rfl, rfl⟩
    · exact h q x hx
    · rcases process_change hact with ⟨-, rfl⟩ | hc
      · exact List.forall_mem_nil _
      · exact (h p proc hp).change (hok p proc hp) hc

/-- The invariants of a run without a stale number. -/
def World.Safe (env : Env) (w : World) : Prop := w.Ok env ∧ w.Apart

theorem world_safe_step {l : WorldLabel} (h : w.Safe env) (hfresh : w.fresh l)
    (hst : worldStep env w l = some w') : w'.Safe env :=
  ⟨world_ok_step h.1 hst, world_apart_step h.1 h.2 hfresh hst⟩

theorem world_ok_run {ls : List WorldLabel} (h : Lts.run (worldStep env) [] ls = some w) : w.Ok env :=
  (Lts.path_of_run h).invariant (fun _ _ _ hw _ hst => world_ok_step hw hst) (by rintro _ _ ⟨⟩)

/-- An inherited connection of a process that goes on is set aside at most. -/
theorem quarantined_step {l : WorldLabel} (h : w.Safe env) (hp : w[p]? = some proc)
    (hk : proc.connections[k]? = some c) (hhome : c.home ≠ p) (hl : l ≠ .act p .exec)
    (hst : worldStep env w l = some w') :
    ∃ proc' c', w'[p]? = some proc' ∧ proc'.connections[k]? = some c' ∧ c.Quarantined c' := by
  have hlt := (List.getElem?_eq_some_iff.mp hp).1
  obtain ⟨pid, rfl, rfl⟩ | ⟨q, pid, x, rfl, hq, rfl⟩ | ⟨q, a, x, x', rfl, hq, hact, rfl⟩ := world_cases hst
  · exact ⟨proc, c, (List.getElem?_append_left hlt).trans hp, hk, .inl rfl⟩
  · exact ⟨proc, c, (List.getElem?_append_left hlt).trans hp, hk, .inl rfl⟩
  · by_cases hqp : q = p
    · subst hqp
      rw [hp] at hq
      cases hq
      rcases process_change hact with ⟨rfl, -⟩ | hc
      · exact absurd rfl hl
      · obtain ⟨c', hk', hquar⟩ := change_quarantined (h.1 q proc hp) (h.2 q proc hp) hk hhome hc
        exact ⟨x', c', List.getElem?_set_self hlt, hk', hquar⟩
    · exact ⟨proc, c, (List.getElem?_set_ne hqp).trans hp, hk, .inl rfl⟩

/-! ## The result -/

/-- Connection `k` of process `p` cannot be reached from there. -/
structure Unreachable (env : Env) (w : World) (p k : Nat) (proc : Process) (c : PyConnection) : Prop where
  /-- Every call is refused, and leaves everything as it was. -/
  call : c.handle = .held → ∀ running entry, proc.call k c running entry = (.error .otherProcess, proc)
  /-- A child that holds an inherited connection makes none of its own. -/
  connect : c.handle = .held → ∀ running args,
    proc.connect env running args = (.error .otherProcess, proc)
  /-- Whatever happens anywhere, the copy is at most set aside, until `p` is something else. -/
  kept : ∀ ls w', Lts.Path (worldStep env) World.fresh w ls w' → (∀ l ∈ ls, l ≠ .act p .exec) →
    ∃ proc' c', w'[p]? = some proc' ∧ proc'.connections[k]? = some c' ∧ c.Quarantined c'

/-- No process can reach a connection it has inherited. -/
def Isolated (env : Env) (w : World) : Prop := ∀ (p k : Nat) (proc : Process) (c : PyConnection),
  w[p]? = some proc → proc.connections[k]? = some c → c.home ≠ p → Unreachable env w p k proc c

theorem World.Safe.isolated (h : w.Safe env) : Isolated env w := by
  intro p k proc c hp hk hhome
  have hother := (h.1 p proc hp).notOwner (h.2 p proc hp) (List.mem_of_getElem? hk) hhome
  refine ⟨fun hheld running entry => ?_, fun hheld running args => ?_, fun ls w' hpath hls => ?_⟩
  · unfold Process.call
    rw [affinity_other (hother hheld)]
  · unfold Process.connect
    rw [claim_other (hother hheld)]
  · have hinv := (hpath.restrict hls).invariant (P := fun v => v.Safe env ∧ ∃ proc' c',
        v[p]? = some proc' ∧ proc'.connections[k]? = some c' ∧ c.Quarantined c')
      (fun v l v' hv hl hst => by
        obtain ⟨hsafe, x, c', hx, hk', hquar⟩ := hv
        obtain ⟨x', c'', hx', hk'', hquar'⟩ :=
          quarantined_step hsafe hx hk' (hquar.home_eq.trans_ne hhome) hl.2 hst
        exact ⟨world_safe_step hsafe hl.1 hst, x', c'', hx', hk'', hquar.trans hquar'⟩)
      ⟨h, proc, c, hp, hk, .inl rfl⟩
    exact hinv.2

/-- A child that takes the number its memory remembers is not told from its parent. -/
theorem fresh_of_isolated {l : WorldLabel} (hok : w.Ok env) (hst : worldStep env w l = some w')
    (hiso : Isolated env w') : w.fresh l := by
  cases l with
  | spawn | act => trivial
  | fork p pid =>
    obtain ⟨_, ⟨⟩, -⟩ | ⟨_, _, proc, ⟨⟩, hp, rfl⟩ | ⟨_, _, _, _, ⟨⟩, -⟩ := world_cases hst
    intro x hx c hc hheld hstale
    rw [hp] at hx
    cases hx
    obtain ⟨k, hk⟩ := List.mem_iff_getElem?.mp hc
    have hlt := (List.getElem?_eq_some_iff.mp hp).1
    have hhome : c.home ≠ w.length :=
      Nat.ne_of_lt (Nat.lt_of_le_of_lt ((hok p proc hp).connections c hc).home hlt)
    have hnew : (w ++ [proc.forked pid])[w.length]? = some (proc.forked pid) := by simp
    have hcall := (hiso w.length k (proc.forked pid) c hnew hk hhome).call hheld none .ensureContext
    -- the guard takes it for the owner, and only then looks for a loop
    have howner : isOwnerProcess (proc.forked pid).ownerProcess (proc.forked pid).pid = true :=
      isOwner_iff.mpr (.inr hstale)
    unfold Process.call at hcall
    rw [affinity_owner howner] at hcall
    cases hcall

/-- **Inherited connections cannot be reached**, in any state of a run, if and only if no child that holds
one takes the number that its memory remembers. -/
theorem inherited_isolated_iff (env : Env) (ls : List WorldLabel) (w : World)
    (hrun : Lts.run (worldStep env) [] ls = some w) :
    (∀ as v, as <+: ls → Lts.run (worldStep env) [] as = some v → Isolated env v) ↔
      Lts.Path (worldStep env) World.fresh [] ls w := by
  constructor
  · intro h
    refine Lts.path_of_initial hrun fun as l v v' has hv hst => ?_
    refine fresh_of_isolated (world_ok_run hv) hst (h (as ++ [l]) v' has ?_)
    rw [Lts.run_append, hv, Option.bind_some, Lts.run_cons, hst]
    rfl
  · intro hpath as v has hv
    exact World.Safe.isolated <| (hpath.initial has hv).invariant
      (fun _ _ _ hw hfresh hst => world_safe_step hw hfresh hst)
      ⟨by rintro _ _ ⟨⟩, by rintro _ _ ⟨⟩⟩

def Env.http : Env := ⟨64, httpHost, httpPortU16⟩

def tinyArgs : ConnectArgs where
  request := .ok ⟨some "ws", some "localhost".toList⟩
  maxQueue := some (.int 1)
  maxMessageSize := some (.int 4)
  maxBufferedBytes := some (.int 4)
  closeTimeout := some 1

/-- A process connects and forks; the child tries everything, and the parent goes on. Then the parent is
gone, and a grandchild takes its number. -/
def orphanRun : List WorldLabel :=
  [.spawn 1, .act 0 (.load (.index 0) (.index 0)), .act 0 (.connect (some 7) tinyArgs),
    .act 0 (.connected 0 (.ok ())), .fork 0 2, .act 1 (.call 0 (some 7) .receive), .act 1 (.abort 0),
    .act 0 (.call 0 (some 7) .close), .act 0 (.native 0 (.close 0 .next)), .act 0 .exit, .fork 1 1]

theorem inherited_isolated_iff_orphan :
    (∀ as v, as <+: orphanRun → Lts.run (worldStep .http) [] as = some v → Isolated .http v) ↔
      Lts.Path (worldStep .http) World.fresh [] orphanRun (Lts.after (worldStep .http) [] orphanRun) :=
  inherited_isolated_iff .http orphanRun _ (Lts.run_after rfl)

/-- The grandchild passes for the first process: its call of the connection it inherited is let in. -/
example : ((Lts.after (worldStep .http) [] orphanRun)[2]?.map fun proc =>
    proc.connections.map fun c => (proc.call 0 c (some 7) .receive).1.toOption) = some [some ()] := rfl

/-! ## At home -/

/-- Connection `k`, in the process that made it. -/
structure Attended (k : Nat) (proc : Process) (c : PyConnection) : Prop where
  /-- Another thread, or another loop, is turned away. -/
  elsewhere : ∀ running entry, running ≠ some c.ownerLoop →
    ∃ e, e.type = .loopAffinityError ∧ proc.call k c running entry = (.error e, proc)
  /-- On its loop a method refuses what it refuses by itself, and the driver takes every call. -/
  refused : ∀ entry e, entry.call c.config c.driver.cells.state.value = .error e →
    proc.call k c (some c.ownerLoop) entry = (.error e, proc)
  taken : ∀ entry l, entry.call c.config c.driver.cells.state.value = .ok (some l) →
    ∃ driver, step c.config c.driver l = some driver ∧
      proc.call k c (some c.ownerLoop) entry = (.ok (), proc.connectionAt k { c with driver })
  /-- Finalization aborts the driver and drops its `Arc`. -/
  abort : ∃ driver, step c.config c.driver .callAbort = some driver ∧
    proc.abort k c = proc.connectionAt k { c with driver }
  collect : proc.collect k c = proc.connectionAt k { c with handle := .released }

/-- A driver that is alive takes every call. -/
theorem call_enabled {config : ConnectionConfig} {s : St} {l : Label} (hl : l.isCall = true)
    (hal : s.driver = .alive) : ∃ s', step config s l = some s' := by
  cases l with
  | callClose | callAbort | callAdmit | callReceive => exact ⟨_, if_pos hal⟩
  | _ => cases hl

theorem attended_of_owner (howner : proc.ownerProcess = some proc.pid) (hal : c.driver.driver = .alive) :
    Attended k proc c := by
  have hown : isOwnerProcess proc.ownerProcess proc.pid = true := isOwner_iff.mpr (.inr howner)
  have hsame : { proc with ownerProcess := some proc.pid } = proc := by rw [← howner]
  refine ⟨fun running entry hne => ?_, fun entry e he => ?_, fun entry l he => ?_, ?_, ?_⟩
  · cases running with
    | none => exact ⟨.noLoop, rfl, by rw [Process.call, affinity_owner hown]; exact congrArg _ hsame⟩
    | some loop =>
      have hloop : loop ≠ c.ownerLoop := fun h => hne (congrArg some h)
      refine ⟨.otherLoop, rfl, ?_⟩
      simp only [Process.call, affinity_owner hown, hloop, ne_eq, not_false_eq_true, if_true, hsame]
  · simp only [Process.call, affinity_owner hown, ne_eq, not_true, if_false, he, hsame]
  · obtain ⟨driver, hst⟩ := call_enabled (Entry.isCall he) hal
    refine ⟨driver, hst, ?_⟩
    simp only [Process.call, affinity_owner hown, ne_eq, not_true, if_false, he, hst, Option.getD_some, hsame]
  · obtain ⟨driver, hst⟩ := call_enabled (l := .callAbort) rfl hal
    refine ⟨driver, hst, ?_⟩
    rw [Process.abort, if_pos hown, hst]
    rfl
  · rw [Process.collect, if_pos hown]

/-- **Every connection is in a state that its driver comes to by itself**, from an accepted configuration, in
whatever process: so all that is proved of the runs of a driver holds of it. The process that made it never
sets it aside, and is refused only what its loop or its arguments refuse. -/
theorem connections_driven (env : Env) (ls : List WorldLabel) (w : World)
    (hrun : Lts.run (worldStep env) [] ls = some w) (p k : Nat) (proc : Process) (c : PyConnection)
    (hp : w[p]? = some proc) (hk : proc.connections[k]? = some c) :
    c.config.Accepted env.bits ∧ c.Driven ∧
      (c.home = p → c.handle ≠ .forgotten ∧ (c.handle = .held → Attended k proc c)) := by
  have hok := (world_ok_run hrun p proc hp).connections c (List.mem_of_getElem? hk)
  refine ⟨hok.accepted, hok.driven, fun hhome => ?_⟩
  obtain ⟨howner, hforgotten⟩ := hok.own hhome
  exact ⟨hforgotten, fun hheld => attended_of_owner howner (hok.held hheld)⟩

theorem connections_driven_orphan : ∃ proc c,
    (Lts.after (worldStep .http) [] orphanRun)[0]? = some proc ∧ proc.connections[0]? = some c ∧
      c.config.Accepted 64 ∧ c.Driven ∧
        (c.home = 0 → c.handle ≠ .forgotten ∧ (c.handle = .held → Attended 0 proc c)) :=
  ⟨_, _, rfl, rfl, connections_driven .http orphanRun _ (Lts.run_after rfl) 0 0 _ _ rfl rfl⟩

end FogWS
