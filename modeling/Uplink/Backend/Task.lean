import Uplink.Backend.Handler
import Uplink.Link.Scripted
import Uplink.Packet.ConnectReason
import Uplink.Session.Client

/-!
# The polling task

The polling task owns the connection. `Setup.step` is its authoritative semantics:
one step of the task from a `World`, or none when it has to wait. An attempt raises
`connecting`, opens a link, runs a session on it and raises `disconnected` once,
however it ends; then the slot is free again.

A session sends its connection request and then takes turns. A turn takes the first
of: bytes that arrived, the keep-alive deadline, a queued request, a disconnect
request. The deadline is fixed when the turn begins, from the time of the last
transmission, but its timer is only armed when the task waits: a turn that begins too
late waits all the same, and the deadline counts when the task is polled again.
Arrived bytes are followed by the handling of every complete packet.
-/

namespace Uplink

/-- The identifier of a session: what the configuration puts in front of the
device's identifier, and that identifier. -/
structure SessionId where
  text : String
  fits : text.utf8ByteSize ≤ Limits.clientId

/-- Compose the identifier of a session. -/
def SessionId.compose (front id : String) : Except BackendError SessionId :=
  if fits : (front ++ id).utf8ByteSize ≤ Limits.clientId then .ok ⟨front ++ id, fits⟩
  else .error .clientIdTooLong

/-- What a polling task is made with. -/
structure Setup (σ ν : Type) where
  sessionId : SessionId
  config : BackendConfig
  handler : Handler σ ν

/-- What the task does once a packet is sent. -/
inductive Continuation where
  /-- Take the next turn. -/
  | turn
  /-- Handle the packets that are left. -/
  | drain
  /-- End the session, also when the send failed. -/
  | close
deriving DecidableEq, Repr

/-- Where the task stands. -/
inductive Stage where
  /-- Nothing was asked of it. -/
  | resting
  /-- It waits for a connect request. -/
  | awaitingRequest
  /-- It waits for the outcome of an attempt to open a link. -/
  | opening
  /-- A packet is being sent. -/
  | sending (client : Client) (packet : Outbound) (frame : Bytes) (next : Continuation)
  /-- Received packets are being handled. -/
  | draining (client : Client)
  /-- A turn has begun; `armed` tells whether the timer of its deadline is running. -/
  | selecting (client : Client) (deadline : Micros) (armed : Bool)
deriving DecidableEq, Repr

/-- What the task can be asked to do. -/
inductive Job where
  /-- One attempt. -/
  | once
  /-- Serve connect requests forever. -/
  | forever
deriving DecidableEq, Repr

/-- What happens in a world, in the order in which it happens. -/
inductive Entry (ν : Type) where
  /-- A caller or a handler called the handle. -/
  | called (call : Call) (answer : Except BackendError Unit)
  /-- An event was raised, in a phase. -/
  | raised (event : Event) (phase : Phase)
  /-- An attempt to reach the broker began. -/
  | opened (broker : BrokerConfig)
  /-- Bytes were received. -/
  | received (bytes : Bytes)
  /-- A packet was taken from them. -/
  | handled (packet : Inbound)
  /-- A packet was given to the link, which took it or failed. -/
  | handed (packet : Outbound) (frame : Bytes) (taken : Bool)
  /-- The link was dropped. -/
  | aborted
  /-- A single attempt is over. -/
  | returned
  /-- The handler left a note. -/
  | noted (note : ν)

/-- A backend with its task, its handler and the broker's side of the link. -/
structure World (σ ν : Type) where
  now : Micros := 0
  link : Link := {}
  /-- Outcomes of the attempts to come; without any, attempts succeed. -/
  opens : List Outcome := []
  /-- The outcome of the attempt under way. -/
  openAnswer : Outcome := .pend
  handle : Handle := {}
  stage : Stage := .resting
  /-- Whether connect requests are served forever. -/
  serving : Bool := false
  /-- What the task was asked to do last and has not begun. -/
  next : Option Job := none
  handlerState : σ
  /-- What has happened, latest first. -/
  trace : List (Entry ν) := []

namespace World

variable {σ ν : Type}

/-- Add to what has happened. -/
def record (world : World σ ν) (entry : Entry ν) : World σ ν :=
  { world with trace := entry :: world.trace }

/-- Go on at a stage. -/
def moveTo (world : World σ ν) (stage : Stage) : World σ ν := { world with stage }

end World

namespace Setup

variable {σ ν : Type} (setup : Setup σ ν)

/-- The time that a turn may take without keep-alive. -/
def idleWait : Micros := 3600 * microsPerSecond

/-- What sessions announce. -/
def options : SessionOptions :=
  SessionOptions.withKeepAlive { clientId := setup.sessionId.text } setup.config.keepAlive

/-- Report an event to the handler. -/
def raise (event : Event) (world : World σ ν) : World σ ν :=
  let (handlerState, handle, entries) :=
    (setup.handler.react event world.handlerState).run world.handle
  let entries : List (Entry ν) := entries.map fun
    | .called call answer => .called call answer
    | .noted note => .noted note
  { world with
    handlerState, handle,
    trace := entries.reverse ++ .raised event world.handle.phase :: world.trace }

/-- Enter a phase and report it. -/
def enter (phase : Phase) (event : Event) (world : World σ ν) : World σ ν :=
  setup.raise event { world with handle := { world.handle with phase } }

/-- Give the slot back and look for other work. -/
def finish (world : World σ ν) : World σ ν :=
  let world := { world with handle := world.handle.reset }
  if world.serving then world.moveTo .awaitingRequest
  else (world.record .returned).moveTo .resting

/-- End an attempt that has no link. -/
def giveUp (world : World σ ν) : World σ ν :=
  finish (setup.enter .disconnected .disconnected world)

/-- End a session and drop its link. -/
def close (world : World σ ν) : World σ ν :=
  let world := (setup.enter .disconnected .disconnected world).record .aborted
  finish { world with link := world.link.forget }

/-- Begin a turn. -/
def beginTurn (client : Client) (world : World σ ν) : World σ ν :=
  world.moveTo (.selecting client (world.now + (client.timeLeft world.now).getD idleWait) false)

/-- Send a packet; one that does not fit ends the session. -/
def transmit (client : Client) (packet : Outbound) (next : Continuation) (world : World σ ν) :
    World σ ν :=
  match client.encode packet with
  | .ok frame => world.moveTo (.sending client packet frame next)
  | .error _ => setup.close world

/-- Run a session on a link that was opened. -/
def beginSession (world : World σ ν) : World σ ν :=
  let client := Client.start setup.options Limits.packetBuffer world.now
  setup.transmit client setup.options.connect .turn { world with link := world.link.forget }

/-- Follow the outcome of an attempt to open a link. -/
def follow (outcome : Outcome) (world : World σ ν) : World σ ν :=
  match outcome with
  | .ok => setup.beginSession world
  | .fail => setup.giveUp world
  | .pend => { world with openAnswer := .pend }.moveTo .opening

/-- Try to reach the broker. -/
def openLink (world : World σ ν) : World σ ν :=
  let world := world.record (.opened setup.config.broker)
  match world.opens with
  | [] => setup.follow .ok world
  | outcome :: opens => setup.follow outcome { world with opens }

/-- Begin an attempt, with the slot taken if it is still free. A disconnect request
that came earlier ends it before the broker is tried. -/
def beginAttempt (world : World σ ν) : World σ ν :=
  let handle := world.handle.claim?.getD world.handle
  let world := setup.enter .connecting .connecting { world with handle }
  if world.handle.disconnectRequested then setup.giveUp world else setup.openLink world

/-- What a packet calls for, once it is handled. -/
def handlePacket (client : Client) (packet : Inbound) (world : World σ ν) : World σ ν :=
  match packet with
  | .connAck answer =>
    if ConnectReason.ofCode answer.returnCode = .success then
      if world.handle.phase = .connecting then
        (setup.enter .ready .ready (setup.enter .connected .connected world)).moveTo (.draining client)
      else world.moveTo (.draining client)
    else setup.close world
  | .publish message =>
    if Limits.payload < message.payload.length then world.moveTo (.draining client)
    else
      let world := setup.raise (.dataReceived message.topic message.payload) world
      match message.qos, message.packetId with
      | .atLeastOnce, some packetId =>
        setup.transmit client (.acknowledge .pubAck packetId) .drain world
      | _, _ => world.moveTo (.draining client)
  | .acknowledge .pubRec packetId =>
    setup.transmit client (.acknowledge .pubRel packetId) .drain world
  | .acknowledge _ _ | .subAck _ | .pingResp => world.moveTo (.draining client)

/-- Handle the next complete packet; without one, take the next turn. -/
def drain (client : Client) (world : World σ ν) : World σ ν :=
  match client.next with
  | (.error _, _) => setup.close world
  | (.ok none, client) => beginTurn client world
  | (.ok (some packet), client) =>
    setup.handlePacket client packet (world.record (.handled packet))

/-- Give a packet to the link, unless the link makes it wait. -/
def send (client : Client) (packet : Outbound) (frame : Bytes) (next : Continuation)
    (world : World σ ν) : Option (World σ ν) :=
  match world.link.send? with
  | none => none
  | some (.error _) => some (setup.close (world.record (.handed packet frame false)))
  | some (.ok _) =>
    let client := client.sentAt world.now
    let world := world.record (.handed packet frame true)
    some (match next with
      | .turn => beginTurn client world
      | .drain => world.moveTo (.draining client)
      | .close => setup.close world)

/-- The packet of a request. -/
def requestPacket (packetId : UInt16) : Request → Outbound
  | .publish message => .publish {
      topic := message.topic.text, payload := message.payload, qos := message.qos, packetId }
  | .subscribe topic => .subscribe ⟨packetId, [(topic.text, .atLeastOnce)]⟩

/-- The keep-alive deadline has passed. -/
def keepAlive (client : Client) (world : World σ ν) : World σ ν :=
  if client.options.keepAlive = 0 then beginTurn client world
  else setup.transmit client .pingReq .turn world

/-- Take what has the right of way in a turn without arrived bytes. -/
def selectIdle (client : Client) (deadline : Micros) (armed : Bool) (world : World σ ν) :
    Option (World σ ν) :=
  if armed && decide (deadline ≤ world.now) then some (setup.keepAlive client world)
  else match world.handle.requests with
    | request :: requests =>
      let (packetId, client) := client.takeId
      let world := { world with handle := { world.handle with requests } }
      some (setup.transmit client (requestPacket packetId request) .turn world)
    | [] =>
      if world.handle.disconnectSignal then
        let world := { world with handle := { world.handle with disconnectSignal := false } }
        some (setup.transmit client .disconnect .close world)
      else none

/-- Take what has the right of way in a turn. -/
def select (client : Client) (deadline : Micros) (armed : Bool) (world : World σ ν) :
    Option (World σ ν) :=
  let client := client.release
  if client.room = 0 then some (setup.close world)
  else match world.link.receive? client.room with
    | some (.ok [], link) => some (setup.close { world with link })
    | some (.ok bytes, link) =>
      some (({ world with link }.record (.received bytes)).moveTo (.draining (client.absorb bytes)))
    | some (.error _, link) => some (setup.close { world with link })
    | none => setup.selectIdle client deadline armed world

/-- One step of the task, unless it has to wait. -/
def step (world : World σ ν) : Option (World σ ν) :=
  match world.stage with
  | .resting =>
    match world.next with
    | none => none
    | some .once => some (setup.beginAttempt { world with next := none, serving := false })
    | some .forever => some ({ world with next := none, serving := true }.moveTo .awaitingRequest)
  | .awaitingRequest =>
    if world.handle.connectSignal then
      some (setup.beginAttempt { world with handle := { world.handle with connectSignal := false } })
    else none
  | .opening =>
    match world.openAnswer with
    | .pend => none
    | outcome => some (setup.follow outcome world)
  | .sending client packet frame next => setup.send client packet frame next world
  | .draining client => some (setup.drain client world)
  | .selecting client deadline armed => setup.select client deadline armed world

/-- Take steps until the task has to wait, at most `fuel` of them. -/
def advance : (fuel : Nat) → World σ ν → World σ ν
  | 0, world => world
  | fuel + 1, world =>
    match setup.step world with
    | none => world
    | some after => advance fuel after

end Setup

namespace Stage

/-- Number of received bytes that are not handled yet. -/
def unread : Stage → Nat
  | sending client _ _ _ | draining client | selecting client _ _ => client.buffered.length
  | resting | awaitingRequest | opening => 0

/-- The stage once the task waits in it: a turn's timer is running then. -/
def waiting : Stage → Stage
  | selecting client deadline _ => selecting client deadline true
  | stage => stage

end Stage

/-- The bytes and the turn that a delivery brings. -/
def Delivery.weight : Delivery → Nat
  | data chunk => chunk.length + 1
  | close | fault => 1

namespace World

variable {σ ν : Type}

/-- Bytes and turns that the broker has in store. -/
def backlog (world : World σ ν) : Nat :=
  world.link.chunk.length + world.link.inbound.foldr (fun delivery rest => delivery.weight + rest) 0

/-- A number of steps after which the task certainly waits: every packet takes two
bytes, and brings a few steps and at most a full queue of requests. -/
def budget (world : World σ ν) : Nat :=
  32 * (world.backlog + world.stage.unread + world.handle.requests.length + 8)

end World

/-- Poll the task: let it run until it has to wait. -/
def Setup.poll {σ ν : Type} (setup : Setup σ ν) (world : World σ ν) : World σ ν :=
  let after := setup.advance world.budget world
  after.moveTo after.stage.waiting

end Uplink
