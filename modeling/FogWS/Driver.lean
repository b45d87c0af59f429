import FogWS.Calls
import FogWS.Lib.Lts
import FogWS.Lib.Pool
import FogWS.Tasks
/-!
# The driver as a transition system

`step` is one atomic step of any task or call, or the start of a call. The labels list every source
of interleaving: a run is any sequence of enabled labels from `start config`.

`internal` marks the steps the runtime takes by itself (task steps, the remaining steps of calls in
progress, timers); the others are the transport becoming ready, new calls, and dropped futures.
-/
namespace FogWS

inductive Label where
  | reader (act : ReaderAct)
  | writer (act : WriterAct)
  | watchdog (i : Nat) (act : WatchdogAct)
  | close (i : Nat) (act : CallAct)
  | abort (i : Nat)
  | send (i : Nat) (act : SendAct)
  | receive (i : Nat) (act : CallAct)
  | callClose
  | callAbort
  | callAdmit (size : Nat)
  | callReceive
  /-- The last `Arc` is gone: `Drop for ConnectionDriver` starts `abort`. -/
  | dropDriver
  /-- After `abort`, the fields of the driver are dropped. -/
  | dropFields

def CloseLoc.isOver : CloseLoc → Bool
  | .returned _ | .dropped => true
  | _ => false

def SendLoc.isOver : SendLoc → Bool
  | .refused _ _ | .mismatched _ | .returned _ | .dropped => true
  | _ => false

def ReceiveLoc.isOver : ReceiveLoc → Bool
  | .returned _ | .dropped => true
  | _ => false

def AbortLoc.isOver : AbortLoc → Bool
  | .done => true
  | _ => false

/-- No call holds an `Arc` of the driver. -/
def St.idle (s : St) : Bool :=
  s.closes.all CloseLoc.isOver && s.aborts.all AbortLoc.isOver && s.sends.all SendLoc.isOver &&
    s.receives.all ReceiveLoc.isOver

/-- The drop of the fields: the inbound receiver with what is queued, and the last outbound sender.
Commands in a channel whose receiver is gone too are dropped with the channel. -/
def dropFields (s : St) : St :=
  { s with
    driver := .dropped
    inbound := { s.inbound with
      budget := s.inbound.budget + (s.inbound.channel.queue.map (·.permit)).sum
      channel := s.inbound.channel.dropReceiver }
    outbound :=
      if s.outbound.channel.closed then
        { s.outbound.discard s.outbound.channel.queue with
          channel := s.outbound.channel.dropReceiver }
      else s.outbound }

def step (config : ConnectionConfig) (s : St) : Label → Option St
  | .reader act => readerStep s s.reader.loc act
  | .writer act => writerStep s s.writer.loc act
  | .watchdog i act => s.watchdogs[i]?.bind (watchdogStep s i · act)
  | .close i act => s.closes[i]?.bind (closeStep s i · act)
  | .abort i => s.aborts[i]?.bind (abortStep s i ·)
  | .send i act => s.sends[i]?.bind (sendStep config s i · act)
  | .receive i act => s.receives[i]?.bind (receiveStep s i · act)
  | .callClose => if s.driver = .alive then some { s with closes := s.closes ++ [.start] } else none
  | .callAbort => if s.driver = .alive then some { s with aborts := s.aborts ++ [.store] } else none
  | .callAdmit size =>
    if s.driver = .alive then some { s with sends := s.sends ++ [.start size] } else none
  | .callReceive =>
    if s.driver = .alive then some { s with receives := s.receives ++ [.start] } else none
  | .dropDriver =>
    if s.driver = .alive ∧ s.idle then
      some { s with driver := .dropping, aborts := s.aborts ++ [.store] }
    else none
  | .dropFields =>
    if s.driver = .dropping ∧ s.aborts.all AbortLoc.isOver then some (dropFields s) else none

/-- The states of a connection under any schedule, any peer and any use of the API. -/
abbrev Reachable (config : ConnectionConfig) : St → Prop := Lts.Reachable (step config) (start config)

/-- Steps of the runtime: no transport event, no new call, no dropped future. -/
def Label.internal : Label → Bool
  | .reader (.item _) => false
  | .reader _ => true
  | .writer .sinkOk | .writer (.sinkErr _) => false
  | .writer _ => true
  | .watchdog _ _ | .close _ .next | .abort _ | .send _ .next | .send _ (.handOver _)
  | .receive _ .next | .dropFields => true
  | .close _ .drop | .send _ .drop | .receive _ .drop | .callClose | .callAbort | .callAdmit _
  | .callReceive | .dropDriver => false

end FogWS
