import FogWS.Inbound
import FogWS.Port
import FogWS.SendText
/-!
# Processes and their connections: `src/runtime.rs`, `src/lib.rs`, `src/py.rs`

Tokio does not survive `fork()`, Python objects do. `OWNER_PROCESS` is the number of the process that first
loaded the module; it is memory, so a child inherits it with the connections. Everything that would touch
Tokio compares it with the number of the process it runs in.

| here | there |
| --- | --- |
| `Process.ownerProcess` | `OWNER_PROCESS` (runtime.rs:9), a `OnceLock` |
| `Process.load` | `_fogws` (lib.rs:15) |
| `Process.connect`, `Process.connected` | `connect` (py.rs:161), before and in its future |
| `Process.call` | a method of `PyConnection` (py.rs:40) up to its future |
| `Process.abort`, `Process.collect` | `_abort` (py.rs:41), `Drop for PyConnection` (py.rs:143) |
| `Process.native` | a step of the driver: a thread of the runtime, or the rest of a call |
| `World` | every process there is, and its memory |

`fork()` copies the memory and no thread but the one that calls it, so a driver moves only in the process
that started it. Processes that are alive have different numbers; the number of a dead one is given again.
-/
namespace FogWS

/-! ## The guards -/

/-- `claim_or_validate_process` (runtime.rs:35) and others. -/
def PyErr.otherProcess : PyErr :=
  ⟨.runtimeContextError,
    "FogWS was initialized before fork; create a fresh interpreter process before using it", none⟩

/-- `current_loop` (py.rs:247). -/
def PyErr.noLoop : PyErr :=
  ⟨.loopAffinityError, "FogWS async operations must be called from a running asyncio event loop", none⟩

/-- `ensure_loop_affinity` (py.rs:130). -/
def PyErr.otherLoop : PyErr :=
  ⟨.loopAffinityError,
    "connection operations must run on the asyncio loop that created the connection", none⟩

/-- `claim_or_validate_process` (runtime.rs:35), with what it leaves in `OWNER_PROCESS`. -/
def claimOrValidateProcess (ownerProcess : Option Nat) (pid : Nat) : Except PyErr Unit × Option Nat :=
  let owner := ownerProcess.getD pid
  (if owner ≠ pid then .error .otherProcess else .ok (), some owner)

/-- `is_owner_process` (runtime.rs:29). -/
def isOwnerProcess (ownerProcess : Option Nat) (pid : Nat) : Bool := ownerProcess.all (· == pid)

/-- What `get_current` and `get_main` of `_interpreters` give. -/
inductive InterpreterIdentity where
  /-- A tuple; its first item is the number. -/
  | details (id : Int)
  /-- An object with `__index__`. -/
  | index (id : Int)
  deriving DecidableEq, Repr

/-- `extract_interpreter_id` (runtime.rs:60). -/
def extractInterpreterId : InterpreterIdentity → Int
  | .details id | .index id => id

/-- Why the module does not load. -/
inductive ImportFailure where
  | importError (message : String)
  | raised (e : PyErr)
  deriving DecidableEq, Repr

/-- `ensure_main_interpreter` (runtime.rs:46). -/
def ensureMainInterpreter (current main : InterpreterIdentity) : Except ImportFailure Unit :=
  if extractInterpreterId current ≠ extractInterpreterId main then
    .error (.importError "module fogws._fogws does not support loading in subinterpreters")
  else .ok ()

/-- `validate_import_context` (runtime.rs:11). -/
def validateImportContext (ownerProcess : Option Nat) (pid : Nat) (current main : InterpreterIdentity) :
    Except ImportFailure Unit × Option Nat :=
  match ensureMainInterpreter current main with
  | .error e => (.error e, ownerProcess)
  | .ok () =>
    match claimOrValidateProcess ownerProcess pid with
    | (.error e, owner) => (.error (.raised e), owner)
    | (.ok (), owner) => (.ok (), owner)

/-- `current_loop` (py.rs:247): the loop that runs in this thread. -/
def currentLoop : Option Nat → Except PyErr Nat
  | none => .error .noLoop
  | some loop => .ok loop

/-- `ensure_loop_affinity` (py.rs:130). -/
def ensureLoopAffinity (ownerProcess : Option Nat) (pid ownerLoop : Nat) (running : Option Nat) :
    Except PyErr Unit × Option Nat :=
  match claimOrValidateProcess ownerProcess pid with
  | (.error e, owner) => (.error e, owner)
  | (.ok (), owner) =>
    match currentLoop running with
    | .error e => (.error e, owner)
    | .ok loop => (if loop ≠ ownerLoop then .error .otherLoop else .ok (), owner)

/-! ## Arguments -/

/-- The world outside. -/
structure Env where
  /-- The pointer width. -/
  bits : Nat
  /-- `Authority::host` and `Authority::port_u16` of the `http` crate. -/
  host : List Char → List Char
  portU16 : List Char → Option Nat

/-- A limit argument: a number, by its own type or by `__index__`, or something else. -/
inductive PyLimit where
  | int (n : Int)
  | other
  deriving DecidableEq, Repr

/-- `extract_limit` (py.rs:199). -/
def extractLimit (bits : Nat) (value : Option PyLimit) (name : String) (default : Nat) : Except PyErr Nat :=
  match value with
  | none => .ok default
  | some value =>
    let refused :=
      .error ⟨.resourceLimitError, name ++ " must be a non-negative platform-sized integer", none⟩
    match value with
    | .int (.ofNat n) => if n ≤ usizeMax bits then .ok n else refused
    | _ => refused

/-- The arguments of `_connect`; the library's reading of `uri`, and of `close_timeout` as a duration. -/
structure ConnectArgs where
  request : Except String Uri
  maxQueue : Option PyLimit
  maxMessageSize : Option PyLimit
  maxBufferedBytes : Option PyLimit
  closeTimeout : Option Nat

/-- The configuration that `connect` (py.rs:171) makes of its arguments. -/
def connectConfig (bits : Nat) (args : ConnectArgs) : Except PyErr ConnectionConfig :=
  match extractLimit bits args.maxQueue "max_queue" ConnectionConfig.default.maxQueue with
  | .error e => .error e
  | .ok maxQueue =>
    match extractLimit bits args.maxMessageSize "max_message_size"
        ConnectionConfig.default.maxMessageSize with
    | .error e => .error e
    | .ok maxMessageSize =>
      match extractLimit bits args.maxBufferedBytes "max_buffered_bytes"
          ConnectionConfig.default.maxBufferedBytes with
      | .error e => .error e
      | .ok maxBufferedBytes =>
        match ConnectionConfig.new bits maxQueue maxMessageSize maxBufferedBytes args.closeTimeout with
        | .error error => .error (driverErrorToPython error)
        | .ok config => .ok config

/-- The methods of `PyConnection` that start with `ensure_loop_affinity`. -/
inductive Entry where
  | ensureContext
  | sendText (payload : PyStr)
  | sendBytes (payload : List UInt8)
  | receive
  | close

/-- What a method does after `ensure_loop_affinity`: the exception, or the call of the driver it makes. -/
def Entry.call (config : ConnectionConfig) (state : DriverState) : Entry → Except PyErr (Option Label)
  | .ensureContext => .ok none
  | .sendText payload =>
    match validateOutboundMessage config state payload.length with
    | .error error => .error (driverErrorToPython error)
    | .ok () =>
      match payload.toStr with
      | .error e => .error e
      | .ok text => .ok (some (.callAdmit text.utf8ByteSize))
  | .sendBytes payload => .ok (some (.callAdmit payload.length))
  | .receive => .ok (some .callReceive)
  | .close => .ok (some .callClose)

/-! ## Processes -/

/-- What has become of the `Arc` in a `PyConnection`. -/
inductive Handle where
  | held
  /-- Dropped: the driver is dropped with its last future. -/
  | released
  /-- `mem::forget`: nothing of this copy is ever dropped. -/
  | forgotten
  deriving DecidableEq, Repr

/-- `PyConnection` (py.rs:34), with the driver behind it. -/
structure PyConnection where
  handle : Handle
  driver : St
  config : ConnectionConfig
  ownerLoop : Nat
  /-- The process whose threads run the tasks of the driver. -/
  home : Nat

/-- The future of a `_connect`. -/
structure Connecting where
  request : Except String Uri
  config : ConnectionConfig
  ownerLoop : Nat

structure Process where
  pid : Nat
  alive : Bool
  ownerProcess : Option Nat
  /-- The module has been loaded. -/
  loaded : Bool
  connecting : List Connecting
  connections : List PyConnection

namespace Process

/-- A process with a memory of its own. -/
def new (pid : Nat) : Process := ⟨pid, true, none, false, [], []⟩

/-- The child of `fork()`. -/
def forked (proc : Process) (pid : Nat) : Process := { proc with pid, connecting := [] }

def connectionAt (proc : Process) (k : Nat) (c : PyConnection) : Process :=
  { proc with connections := proc.connections.set k c }

/-- `_fogws` (lib.rs:15). -/
def load (proc : Process) (current main : InterpreterIdentity) : Except ImportFailure Unit × Process :=
  match validateImportContext proc.ownerProcess proc.pid current main with
  | (.error e, ownerProcess) => (.error e, { proc with ownerProcess })
  | (.ok (), ownerProcess) => (.ok (), { proc with ownerProcess, loaded := true })

/-- `connect` (py.rs:161), up to its future. -/
def connect (env : Env) (proc : Process) (running : Option Nat) (args : ConnectArgs) :
    Except PyErr Unit × Process :=
  match claimOrValidateProcess proc.ownerProcess proc.pid with
  | (.error e, ownerProcess) => (.error e, { proc with ownerProcess })
  | (.ok (), ownerProcess) =>
    let proc := { proc with ownerProcess }
    match currentLoop running with
    | .error e => (.error e, proc)
    | .ok ownerLoop =>
      match connectConfig env.bits args with
      | .error e => (.error e, proc)
      | .ok config =>
        (.ok (), { proc with connecting := proc.connecting ++ [⟨args.request, config, ownerLoop⟩] })

/-- `client::connect` (client.rs:10): the checks of the request, and the library's attempt. -/
def startDriver (env : Env) (request : Except String Uri) (attempt : Except String Unit)
    (config : ConnectionConfig) : Except DriverError St :=
  match clientConnect env.host env.portU16 request with
  | .error error => .error error
  | .ok _ =>
    match attempt with
    | .error error => .error (.connectionFailed ("WebSocket connection failed: " ++ error))
    | .ok () => .ok (start config)

/-- The future of `connect` (py.rs:188) in process `p` comes to its end. -/
def connected (env : Env) (p : Nat) (proc : Process) (j : Nat) (c : Connecting)
    (attempt : Except String Unit) : Except PyErr Unit × Process :=
  let proc := { proc with connecting := proc.connecting.eraseIdx j }
  match startDriver env c.request attempt c.config with
  | .error error => (.error (driverErrorToPython error), proc)
  | .ok driver =>
    (.ok (), { proc with
      connections := proc.connections ++ [⟨.held, driver, c.config, c.ownerLoop, p⟩] })

/-- A method of connection `k`, up to its future. -/
def call (proc : Process) (k : Nat) (c : PyConnection) (running : Option Nat) (entry : Entry) :
    Except PyErr Unit × Process :=
  match ensureLoopAffinity proc.ownerProcess proc.pid c.ownerLoop running with
  | (.error e, ownerProcess) => (.error e, { proc with ownerProcess })
  | (.ok (), ownerProcess) =>
    let proc := { proc with ownerProcess }
    match entry.call c.config c.driver.cells.state.value with
    | .error e => (.error e, proc)
    | .ok none => (.ok (), proc)
    | .ok (some l) =>
      (.ok (), proc.connectionAt k { c with driver := (step c.config c.driver l).getD c.driver })

/-- `_abort` (py.rs:41). -/
def abort (proc : Process) (k : Nat) (c : PyConnection) : Process :=
  if isOwnerProcess proc.ownerProcess proc.pid then
    proc.connectionAt k { c with driver := (step c.config c.driver .callAbort).getD c.driver }
  else proc

/-- `Drop for PyConnection` (py.rs:143). -/
def collect (proc : Process) (k : Nat) (c : PyConnection) : Process :=
  proc.connectionAt k
    { c with handle := if isOwnerProcess proc.ownerProcess proc.pid then .released else .forgotten }

end Process

/-- The steps of a driver that are no step of Python: the rest, the start of a call and the drop of the
`Arc`, is `Process.call`, `Process.abort` and `Process.collect`. -/
def Label.isNative (handle : Handle) : Label → Bool
  | .callClose | .callAbort | .callAdmit _ | .callReceive => false
  | .dropDriver => handle = .released
  | _ => true

/-- A step of the driver behind connection `c` in process `p`. The library keeps to `max_message_size`. -/
def PyConnection.native (p : Nat) (c : PyConnection) (l : Label) : Option PyConnection :=
  if c.home = p ∧ l.isNative c.handle ∧ l.fits c.config then
    (step c.config c.driver l).map fun driver => { c with driver }
  else none

/-- What a process does. -/
inductive Act where
  | load (current main : InterpreterIdentity)
  | connect (running : Option Nat) (args : ConnectArgs)
  | connected (j : Nat) (attempt : Except String Unit)
  | call (k : Nat) (running : Option Nat) (entry : Entry)
  | abort (k : Nat)
  | collect (k : Nat)
  | native (k : Nat) (l : Label)
  /-- A new process image. -/
  | exec
  | exit

/-- An act of process `p`. A method is called of an object that has not been finalized. -/
def processStep (env : Env) (p : Nat) (proc : Process) : Act → Option Process
  | .load current main => some (proc.load current main).2
  | .connect running args => if proc.loaded then some (proc.connect env running args).2 else none
  | .connected j attempt => proc.connecting[j]?.map fun c => (proc.connected env p j c attempt).2
  | .call k running entry =>
    proc.connections[k]?.bind fun c =>
      if c.handle = .held then some (proc.call k c running entry).2 else none
  | .abort k =>
    proc.connections[k]?.bind fun c => if c.handle = .held then some (proc.abort k c) else none
  | .collect k =>
    proc.connections[k]?.bind fun c => if c.handle = .held then some (proc.collect k c) else none
  | .native k l => proc.connections[k]?.bind fun c => (c.native p l).map (proc.connectionAt k ·)
  | .exec => some (.new proc.pid)
  | .exit => some { proc with alive := false }

/-! ## The world -/

abbrev World := List Process

/-- No process that is alive has this number. -/
def World.free (w : World) (pid : Nat) : Bool := w.all fun proc => !(proc.alive && proc.pid == pid)

inductive WorldLabel where
  | spawn (pid : Nat)
  | fork (p pid : Nat)
  | act (p : Nat) (a : Act)

def worldStep (env : Env) (w : World) : WorldLabel → Option World
  | .spawn pid => if w.free pid then some (w ++ [.new pid]) else none
  | .fork p pid =>
    w[p]?.bind fun proc => if proc.alive ∧ w.free pid then some (w ++ [proc.forked pid]) else none
  | .act p a =>
    w[p]?.bind fun proc => if proc.alive then (processStep env p proc a).map (w.set p ·) else none

end FogWS
