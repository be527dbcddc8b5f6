import Uplink.Backend.Request

/-!
# The shared handle

Callers reach the backend through a `Handle`. It holds the one connection slot, two
signals for the polling task, and the queue of requests; no operation on it waits or
touches the link. Only the polling task changes the phase.
-/

namespace Uplink

/-- How far the connection has come. -/
inductive Phase where
  | idle
  | connecting
  | connected
  | ready
  | disconnected
deriving DecidableEq, Repr

/-- Whether requests are accepted. -/
def Phase.acceptsRequests : Phase → Bool
  | connected | ready => true
  | idle | connecting | disconnected => false

/-- What a caller can ask of the backend. -/
inductive Call where
  | connect
  | disconnect
  | publish (message : Message)
  | subscribe (topic : String)
deriving DecidableEq, Repr

/-- The state that callers and the polling task share. -/
structure Handle where
  /-- Whether the connection slot is taken. -/
  active : Bool := false
  /-- Whether the end of the attempt was asked for since the slot was taken. -/
  disconnectRequested : Bool := false
  phase : Phase := .idle
  /-- A connect request that the task has not picked up. -/
  connectSignal : Bool := false
  /-- A disconnect request that the session has not picked up. -/
  disconnectSignal : Bool := false
  /-- Requests in the order in which they were accepted. -/
  requests : List Request := []
deriving DecidableEq

namespace Handle

/-- Take the connection slot, unless it is taken. Disconnect requests of an earlier
attempt are forgotten. -/
def claim? (handle : Handle) : Option Handle :=
  if handle.active then none
  else some { handle with active := true, disconnectRequested := false, disconnectSignal := false }

/-- Ask for a connection. -/
def connect (handle : Handle) : Except BackendError Handle :=
  match handle.claim? with
  | none => .error .inProgress
  | some handle => .ok { handle with connectSignal := true }

/-- Ask for the end of the attempt or session; nothing happens when there is none. -/
def disconnect (handle : Handle) : Handle :=
  if handle.active then { handle with disconnectRequested := true, disconnectSignal := true }
  else handle

/-- Queue a request, unless the queue is full. -/
def enqueue (handle : Handle) (request : Request) : Except BackendError Handle :=
  if handle.requests.length < Limits.queuedRequests then
    .ok { handle with requests := handle.requests ++ [request] }
  else .error .queueFull

/-- Queue a message. The session is judged first, then the message, then the queue. -/
def publish (handle : Handle) (message : Message) : Except BackendError Handle :=
  if handle.phase.acceptsRequests then do
    let request ← PublishRequest.ofMessage message
    handle.enqueue (.publish request)
  else .error .notConnected

/-- Queue a subscription. -/
def subscribe (handle : Handle) (topic : String) : Except BackendError Handle :=
  if handle.phase.acceptsRequests then do
    let topic ← Topic.ofText topic
    handle.enqueue (.subscribe topic)
  else .error .notConnected

/-- Do what a caller asks for. -/
def attempt (handle : Handle) : Call → Except BackendError Handle
  | .connect => handle.connect
  | .disconnect => .ok handle.disconnect
  | .publish message => handle.publish message
  | .subscribe topic => handle.subscribe topic

/-- Do what a caller asks for: the answer and the handle afterwards. A refused call
changes nothing. -/
def perform (handle : Handle) (call : Call) : Except BackendError Unit × Handle :=
  match handle.attempt call with
  | .ok after => (.ok (), after)
  | .error reason => (.error reason, handle)

/-- Give the slot back after an attempt. What was queued for its session is dropped. -/
def reset (handle : Handle) : Handle :=
  { handle with requests := [], connectSignal := false, phase := .idle, active := false }

end Handle

end Uplink
