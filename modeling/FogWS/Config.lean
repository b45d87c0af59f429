import FogWS.Error
import Mathlib.Algebra.Order.Ring.Nat
/-!
# Connection limits: `src/config.rs`

`usize` is a natural number below `2 ^ bits` for a pointer width `bits`; the close timeout argument
is what `Duration::try_from_secs_f64` makes of the float (`none` when it refuses it), in nanoseconds.
-/
namespace FogWS

/-- `u32::MAX`. -/
def u32Max : Nat := 2 ^ 32 - 1

/-- `usize::MAX` at a pointer width. -/
def usizeMax (bits : Nat) : Nat := 2 ^ bits - 1

/-- `Semaphore::MAX_PERMITS`, which is `MAX_QUEUE_CAPACITY` (config.rs:14). -/
def maxQueueCapacity (bits : Nat) : Nat := usizeMax bits >>> 3

/-- `ConnectionConfig` (config.rs:19). -/
structure ConnectionConfig where
  closeTimeout : Nat
  maxBufferedBytes : Nat
  maxMessageSize : Nat
  maxQueue : Nat
  deriving DecidableEq, Repr

/-- `ConnectionConfig::new` (config.rs:27): the checks in the order of the source. -/
def ConnectionConfig.new (bits maxQueue maxMessageSize maxBufferedBytes : Nat)
    (closeTimeoutSeconds : Option Nat) : Except DriverError ConnectionConfig :=
  if maxQueue = 0 then .error (.resourceLimit "max_queue must be greater than zero")
  else if maxQueue > maxQueueCapacity bits then
    .error (.resourceLimit ("max_queue must not exceed " ++ toString (maxQueueCapacity bits)))
  else if maxMessageSize = 0 then
    .error (.resourceLimit "max_message_size must be greater than zero")
  else if maxBufferedBytes < maxMessageSize then
    .error (.resourceLimit "max_buffered_bytes must be at least max_message_size")
  else if maxBufferedBytes > u32Max then
    .error (.resourceLimit ("max_buffered_bytes must not exceed " ++ toString u32Max))
  else match closeTimeoutSeconds with
    | none => .error (.resourceLimit "close_timeout must be a finite number greater than zero")
    | some closeTimeout =>
      if closeTimeout = 0 then
        .error (.resourceLimit "close_timeout must be a finite number greater than zero")
      else .ok ⟨closeTimeout, maxBufferedBytes, maxMessageSize, maxQueue⟩

/-- What an accepted configuration satisfies. -/
structure ConnectionConfig.Accepted (bits : Nat) (c : ConnectionConfig) : Prop where
  queue_pos : 0 < c.maxQueue
  queue_le : c.maxQueue ≤ maxQueueCapacity bits
  message_pos : 0 < c.maxMessageSize
  message_le : c.maxMessageSize ≤ c.maxBufferedBytes
  buffered_le : c.maxBufferedBytes ≤ u32Max
  timeout_pos : 0 < c.closeTimeout

/-- `ConnectionConfig::new` accepts exactly the configurations that satisfy `Accepted`. -/
theorem ConnectionConfig.new_ok_iff {bits q m b : Nat} {t : Option Nat} {c : ConnectionConfig} :
    ConnectionConfig.new bits q m b t = .ok c ↔
      c.Accepted bits ∧ c.maxQueue = q ∧ c.maxMessageSize = m ∧ c.maxBufferedBytes = b ∧
        t = some c.closeTimeout := by
  unfold ConnectionConfig.new
  constructor
  · intro h
    repeat (split at h; · cases h)
    cases h
    refine ⟨⟨?_, ?_, ?_, ?_, ?_, ?_⟩, rfl, rfl, rfl, rfl⟩ <;> dsimp only <;> omega
  · rintro ⟨⟨h1, h2, h3, h4, h5, h6⟩, rfl, rfl, rfl, rfl⟩
    simp [show ¬c.maxQueue = 0 by omega, show ¬c.maxQueue > maxQueueCapacity bits by omega,
      show ¬c.maxMessageSize = 0 by omega, show ¬c.maxBufferedBytes < c.maxMessageSize by omega,
      show ¬c.maxBufferedBytes > u32Max by omega, show ¬c.closeTimeout = 0 by omega]

/-- A size within the limit fits into a `u32`. -/
theorem ConnectionConfig.Accepted.size_le_u32 {bits n : Nat} {c : ConnectionConfig} (h : c.Accepted bits)
    (hn : n ≤ c.maxMessageSize) : n ≤ u32Max :=
  Nat.le_trans hn (Nat.le_trans h.message_le h.buffered_le)

/-! ## The limits of the library -/

/-- `MAX_CONTROL_PAYLOAD_BYTES` (config.rs:12). -/
def maxControlPayloadBytes : Nat := 125

/-- `MAX_FRAME_HEADER_BYTES` (config.rs:13). -/
def maxFrameHeaderBytes : Nat := 14

/-- The fields of the library's `WebSocketConfig` that the driver sets. -/
structure WebSocketConfig where
  maxFrameSize : Option Nat
  maxMessageSize : Option Nat
  maxWriteBufferSize : Nat
  readBufferSize : Nat
  writeBufferSize : Nat
  deriving DecidableEq, Repr

/-- `websocket_config` (config.rs:78), with `READ_BUFFER_BYTES` and `WRITE_BUFFER_BYTES`; the addition is
one of natural numbers here. -/
def ConnectionConfig.websocketConfig (c : ConnectionConfig) : WebSocketConfig where
  readBufferSize := 16384
  writeBufferSize := 0
  maxWriteBufferSize := max c.maxBufferedBytes maxControlPayloadBytes + maxFrameHeaderBytes
  maxMessageSize := some c.maxMessageSize
  maxFrameSize := some c.maxMessageSize

/-- The library reads a control frame of `n` payload bytes: `max_frame_size` holds for control frames, too. -/
def ConnectionConfig.readsControl (c : ConnectionConfig) (n : Nat) : Bool :=
  n ≤ maxControlPayloadBytes && c.websocketConfig.maxFrameSize.all (n ≤ ·)

/-- `Default for ConnectionConfig` (config.rs:90). -/
def ConnectionConfig.default : ConnectionConfig where
  closeTimeout := 10000000000
  maxBufferedBytes := 1048576
  maxMessageSize := 1048576
  maxQueue := 16

/-- The smallest connection: one message of up to four bytes in each direction. -/
def ConnectionConfig.tiny : ConnectionConfig := ⟨1, 4, 4, 1⟩

example : ConnectionConfig.new 32 1 4 4 (some 1) = .ok .tiny := rfl

/-- One message in each direction, and every control frame is read. -/
def ConnectionConfig.small : ConnectionConfig := ⟨1, 125, 125, 1⟩

end FogWS
