import FogWS.Admission
import FogWS.Outbound
import FogWS.Results
/-!
# Limits and pointer widths

The limits of a configuration end up in places that have limits of their own: a bounded channel and a
semaphore panic above `usize::MAX >> 3`, the size of the write buffer is added up in `usize`, and a message
size goes through `u32`. `ConnectionConfig::new` compares `max_queue` with the first of these and
`max_buffered_bytes` with the last only (config.rs:53).

| here | there |
| --- | --- |
| `mpscChannel`, `semaphoreNew` | `mpsc::channel`, `Semaphore::new`; `none` is the panic |
| `usizeAdd` | `+` on `usize`; `none` is the overflow |
| `startOn` | `ConnectionDriver::start` (driver.rs:130) with its panics |
| `websocketConfigOn` | `websocket_config` (config.rs:78) with its overflow |
-/
namespace FogWS

/-- `mpsc::channel`: no capacity at all is a panic, too. -/
def mpscChannel (α : Type) (bits capacity : Nat) : Option (Mpsc α) :=
  if 0 < capacity ∧ capacity ≤ maxQueueCapacity bits then some (.channel capacity) else none

/-- `Semaphore::new`. -/
def semaphoreNew (bits permits : Nat) : Option Nat :=
  if permits ≤ maxQueueCapacity bits then some permits else none

def usizeAdd (bits a b : Nat) : Option Nat := if a + b ≤ usizeMax bits then some (a + b) else none

/-- `ConnectionDriver::start` (driver.rs:130), in the order of its `let`s. -/
def startOn (bits : Nat) (config : ConnectionConfig) : Option St := do
  let inbound ← mpscChannel InboundEnvelope bits config.maxQueue
  let outbound ← mpscChannel OutboundCommand bits config.maxQueue
  let control ← mpscChannel WriterControl bits 4
  let inboundBudget ← semaphoreNew bits config.maxBufferedBytes
  let outboundBudget ← semaphoreNew bits config.maxBufferedBytes
  some { start config with
    inbound := { (start config).inbound with budget := inboundBudget, channel := inbound }
    outbound := { (start config).outbound with budget := outboundBudget, channel := outbound }
    control }

/-- `websocket_config` (config.rs:78). -/
def websocketConfigOn (bits : Nat) (config : ConnectionConfig) : Option WebSocketConfig :=
  (usizeAdd bits (max config.maxBufferedBytes maxControlPayloadBytes) maxFrameHeaderBytes).map
    fun maxWriteBufferSize => { config.websocketConfig with maxWriteBufferSize }

variable {bits n : Nat} {config : ConnectionConfig} {s s' : St} {l : Label}

/-! ## What the limits of the platform ask for -/

theorem startOn_eq_some_iff : startOn bits config = some s ↔
    s = start config ∧ 0 < config.maxQueue ∧ config.maxQueue ≤ maxQueueCapacity bits ∧
      4 ≤ maxQueueCapacity bits ∧ config.maxBufferedBytes ≤ maxQueueCapacity bits := by
  unfold startOn mpscChannel semaphoreNew
  by_cases hq : 0 < config.maxQueue ∧ config.maxQueue ≤ maxQueueCapacity bits
  · by_cases h4 : 4 ≤ maxQueueCapacity bits
    · by_cases hb : config.maxBufferedBytes ≤ maxQueueCapacity bits
      · simp only [hq, h4, hb, and_self, and_true, if_true, Option.bind_eq_bind, Option.bind_some,
          Option.some.injEq, show (0 : Nat) < 4 by decide]
        exact eq_comm
      · simp [hq, h4, hb]
    · simp [hq, h4]
  · simp only [hq, if_false, Option.bind_eq_bind, Option.bind_none, reduceCtorEq, false_iff]
    rintro ⟨-, hpos, hle, -⟩
    exact hq ⟨hpos, hle⟩

theorem websocketConfigOn_eq_some_iff {w : WebSocketConfig} : websocketConfigOn bits config = some w ↔
    w = config.websocketConfig ∧
      max config.maxBufferedBytes maxControlPayloadBytes + maxFrameHeaderBytes ≤ usizeMax bits := by
  unfold websocketConfigOn usizeAdd
  by_cases h : max config.maxBufferedBytes maxControlPayloadBytes + maxFrameHeaderBytes ≤ usizeMax bits
  · simp only [h, if_true, Option.map_some, Option.some.injEq, and_true]
    exact eq_comm
  · simp [h]

/-! ## What the limits of a configuration guarantee -/

/-- No send and no command holds anything. -/
structure Unoccupied (s : St) : Prop where
  sends : ∀ loc ∈ s.sends, loc.bytes = 0 ∧ loc.slots = 0
  held : s.held = []

def SendLoc.Supported : SendLoc → Prop
  | .giveBack _ why _ | .refused why _ => why ≠ .unsupported
  | _ => True

section Accepted

variable (hcfg : config.Accepted bits)
include hcfg

theorem size_supported {v : DriverState} (h : validateOutboundMessage config v n = .ok ()) :
    n ≤ u32Max ∧ n ≤ config.maxBufferedBytes := by
  have hn := (validate_ok_iff.mp h).2
  exact ⟨hcfg.size_le_u32 hn, Nat.le_trans hn hcfg.message_le⟩

theorem sendStep_supported {i : Nat} {loc : SendLoc} {a : SendAct} (h : loc.Supported)
    (hst : sendStep config s i loc a = some s') :
    ∃ loc', s'.sends = s.sends.set i loc' ∧ loc'.Supported := by
  cases sendStep_rule hst with
  | unsupported _ hv hu => exact absurd hu (Nat.not_lt.mpr (size_supported hcfg hv).1)
  | invalid | exhausted | full | refuse => exact ⟨_, rfl, by rintro ⟨⟩⟩
  | giveBack => exact ⟨_, rfl, h⟩
  | _ => exact ⟨_, rfl, trivial⟩

/-- **The conversion** to `u32` does not fail. -/
theorem supported_step (h : ∀ loc ∈ s.sends, loc.Supported) (hst : step config s l = some s') :
    ∀ loc ∈ s'.sends, loc.Supported := by
  cases step_move hst with
  | reader f | writer f | control f | receive f => rw [f.sends]; exact h
  | send _ hloc hst =>
    obtain ⟨loc', hset, hs⟩ := sendStep_supported hcfg (h _ (List.mem_of_getElem? hloc)) hst
    rw [hset]
    exact Pool.forall_set h hs
  | callAdmit => exact Pool.forall_snoc h trivial
  | callReceive | dropDriver | dropFields => exact h

theorem supported_reachable (hr : Reachable config s) : ∀ loc ∈ s.sends, loc.Supported :=
  hr.invariant (List.forall_mem_nil _) fun _ _ _ => supported_step hcfg

/-- **The largest message** is admitted when nothing is outstanding. -/
theorem largest_admitted (hr : Reachable config s) (hopen : s.cells.state.value = .opened)
    (hidle : Unoccupied s) : ∃ o', tryAdmitOutbound config s.cells.state.value s.outbound
      config.maxMessageSize = (.ok ⟨config.maxMessageSize, config.maxMessageSize⟩, o') := by
  have hacc := account_reachable hr
  have hbytes := hacc.bytes
  have hslots := hacc.slots
  rw [Pool.weigh_eq_zero fun loc hloc => (hidle.sends loc hloc).1, hidle.held] at hbytes
  have hqueue : s.outbound.channel.queue = [] := (List.append_eq_nil_iff.mp hidle.held).2
  rw [Pool.weigh_eq_zero fun loc hloc => (hidle.sends loc hloc).2, Mpsc.load, hqueue] at hslots
  have hclosed := (results_reachable hr).channel_open hopen
  have hle := hcfg.message_le
  have hq := hcfg.queue_pos
  rw [hopen]
  refine admit_of_room (Nat.le_refl _) (hcfg.size_le_u32 (Nat.le_refl _)) ?_ hclosed ?_
  · rw [Pool.weigh_nil] at hbytes; omega
  · rw [List.length_nil] at hslots; omega

end Accepted

/-! ## The result -/

/-- A configuration on a platform: the driver starts without a panic, the buffer size does not overflow,
and every size the driver lets through is one the budget can hold. -/
structure Safe (bits : Nat) (config : ConnectionConfig) : Prop where
  starts : startOn bits config = some (start config)
  buffer : websocketConfigOn bits config = some config.websocketConfig
  sizes : ∀ state n, validateOutboundMessage config state n = .ok () →
    n ≤ u32Max ∧ n ≤ (start config).outbound.budget
  converts : ∀ s, Reachable config s → ∀ error, .refused .unsupported error ∉ s.sends
  largest : ∀ s, Reachable config s → s.cells.state.value = .opened → Unoccupied s →
    ∃ o', tryAdmitOutbound config s.cells.state.value s.outbound config.maxMessageSize =
      (.ok ⟨config.maxMessageSize, config.maxMessageSize⟩, o')

/-- A semaphore is at most an eighth of `usize`, which leaves room for a frame header. -/
theorem buffer_fits (hbits : bits = 32 ∨ bits = 64) {b : Nat} (hb : b ≤ maxQueueCapacity bits) :
    max b maxControlPayloadBytes + maxFrameHeaderBytes ≤ usizeMax bits := by
  simp only [maxControlPayloadBytes, maxFrameHeaderBytes]
  rcases hbits with rfl | rfl
  · have hcap : maxQueueCapacity 32 = 536870911 := rfl
    have hmax : usizeMax 32 = 4294967295 := rfl
    omega
  · have hcap : maxQueueCapacity 64 = 2305843009213693951 := rfl
    have hmax : usizeMax 64 = 18446744073709551615 := rfl
    omega

/-- What `ConnectionConfig::new` does not check is the limit of the two semaphores. -/
theorem safe_of_permits (hbits : bits = 32 ∨ bits = 64) (hcfg : config.Accepted bits)
    (hb : config.maxBufferedBytes ≤ maxQueueCapacity bits) : Safe bits config where
  starts := by
    have h4 : 4 ≤ maxQueueCapacity bits := by rcases hbits with rfl | rfl <;> decide
    exact startOn_eq_some_iff.mpr ⟨rfl, hcfg.queue_pos, hcfg.queue_le, h4, hb⟩
  buffer := websocketConfigOn_eq_some_iff.mpr ⟨rfl, buffer_fits hbits hb⟩
  sizes _ _ hv := size_supported hcfg hv
  converts _ hr _ hmem := supported_reachable hcfg hr _ hmem rfl
  largest _ hr hopen hidle := largest_admitted hcfg hr hopen hidle

/-- Where `usize` has 64 bits, `u32::MAX` is below the limit of a semaphore. -/
theorem safe_of_wide (hcfg : config.Accepted 64) : Safe 64 config := by
  refine safe_of_permits (.inr rfl) hcfg ?_
  have hcap : maxQueueCapacity 64 = 2305843009213693951 := rfl
  have hmax : u32Max = 4294967295 := rfl
  have hu := hcfg.buffered_le
  omega

/-- **An accepted configuration is safe** exactly if `max_buffered_bytes` is within the limit of a
semaphore, which `ConnectionConfig::new` does not ask. -/
theorem safe_iff {q m b : Nat} {t : Option Nat} {c : ConnectionConfig} (hbits : bits = 32 ∨ bits = 64)
    (hnew : ConnectionConfig.new bits q m b t = .ok c) : Safe bits c ↔ b ≤ maxQueueCapacity bits := by
  obtain ⟨hcfg, -, -, rfl, -⟩ := ConnectionConfig.new_ok_iff.mp hnew
  constructor
  · intro h
    exact (startOn_eq_some_iff.mp h.starts).2.2.2.2
  · intro hb
    exact safe_of_permits hbits hcfg hb

/-- With 32 bits, `ConnectionConfig::new` accepts a budget `Semaphore::new` panics on, and one that makes
the sum in `websocket_config` overflow as well. -/
theorem accepted_unsafe :
    (∃ c, ConnectionConfig.new 32 1 1 536870912 (some 1) = .ok c ∧ startOn 32 c = none ∧ ¬Safe 32 c) ∧
      ∃ c, ConnectionConfig.new 32 1 1 u32Max (some 1) = .ok c ∧ websocketConfigOn 32 c = none := by
  have hpanic : startOn 32 ⟨1, 536870912, 1, 1⟩ = none := rfl
  refine ⟨⟨_, rfl, hpanic, fun h => ?_⟩, _, rfl, rfl⟩
  have hstart := h.starts
  rw [hpanic] at hstart
  cases hstart

/-- The largest budget, on both. -/
theorem safe_iff_largest : Safe 64 ⟨1, u32Max, 1, 1⟩ ∧ ¬Safe 32 ⟨1, u32Max, 1, 1⟩ :=
  ⟨(safe_iff (q := 1) (m := 1) (b := u32Max) (t := some 1) (.inr rfl) rfl).mpr (by decide),
    fun h => absurd ((safe_iff (q := 1) (m := 1) (b := u32Max) (t := some 1) (.inl rfl) rfl).mp h) (by decide)⟩

end FogWS
