import FogWS.Admission
import FogWS.Calls
import FogWS.Causes
import FogWS.Cells
import FogWS.Client
import FogWS.Config
import FogWS.Delivery
import FogWS.Detach
import FogWS.Diagnostics
import FogWS.Driver
import FogWS.Error
import FogWS.Evolution
import FogWS.Exceptions
import FogWS.Finalize
import FogWS.Flush
import FogWS.Frames
import FogWS.Guards
import FogWS.Inbound
import FogWS.Initiator
import FogWS.Lib.Lts
import FogWS.Lib.Mpsc
import FogWS.Lib.Pool
import FogWS.Lib.Session
import FogWS.Lib.Text
import FogWS.Lib.Watch
import FogWS.Lifecycle
import FogWS.Lossless
import FogWS.Origins
import FogWS.Outbound
import FogWS.Outcome
import FogWS.Overrun
import FogWS.PeerClose
import FogWS.Platform
import FogWS.Port
import FogWS.Processes
import FogWS.Progress
import FogWS.Refinement
import FogWS.Responsible
import FogWS.Rest
import FogWS.Results
import FogWS.Retained
import FogWS.Rules
import FogWS.Runtime
import FogWS.SendText
import FogWS.Sending
import FogWS.Sequential
import FogWS.State
import FogWS.Stranded
import FogWS.Tasks
import FogWS.Teardown
import FogWS.WireOrder
import FogWS.WriteBuffer
