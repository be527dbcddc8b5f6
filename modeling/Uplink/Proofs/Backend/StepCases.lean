import Uplink.Backend.Task

/-!
# What a step of the task can do

`Setup.step_cases` takes the step function apart once: every step is one of the cases of
`StepCase`, each with the conditions under which it is taken and the world it leads to.
Facts about all steps are proved by going through the cases. The two decisions inside a
step, how an attempt begins and what a packet calls for, have cases of their own.
-/

namespace Uplink

/-- Whether an attempt is under way. -/
def Stage.isBusy : Stage → Bool
  | resting | awaitingRequest => false
  | opening | sending _ _ _ _ | draining _ | selecting _ _ _ => true

namespace Setup

variable {σ ν : Type} (setup : Setup σ ν)

/-- The slot is taken and the handler told that an attempt begins. -/
def greet (world : World σ ν) : World σ ν :=
  setup.enter .connecting .connecting
    { world with handle := world.handle.claim?.getD world.handle }

/-- The broker is tried, which uses up one outcome. -/
def dial (world : World σ ν) : World σ ν :=
  { world.record (.opened setup.config.broker) with opens := world.opens.tail }

/-- How an attempt begins. -/
inductive BeginCase (world : World σ ν) : World σ ν → Prop where
  /-- Its end was asked for before the broker is tried. -/
  | cancelled (requested : (setup.greet world).handle.disconnectRequested = true) :
      BeginCase world (setup.giveUp (setup.greet world))
  | unreachable (proceeds : (setup.greet world).handle.disconnectRequested = false)
      (outcome : (setup.greet world).opens.headD .ok = .fail) :
      BeginCase world (setup.giveUp (setup.dial (setup.greet world)))
  | linked (proceeds : (setup.greet world).handle.disconnectRequested = false)
      (outcome : (setup.greet world).opens.headD .ok = .ok) :
      BeginCase world (setup.beginSession (setup.dial (setup.greet world)))
  | pending (proceeds : (setup.greet world).handle.disconnectRequested = false)
      (outcome : (setup.greet world).opens.headD .ok = .pend) :
      BeginCase world
        ({ setup.dial (setup.greet world) with openAnswer := .pend }.moveTo .opening)

theorem openLink_eq (world : World σ ν) :
    setup.openLink world = setup.follow (world.opens.headD .ok) (setup.dial world) := by
  unfold openLink dial
  cases outcomes : world.opens with
  | nil =>
    have unchanged : { world.record (.opened setup.config.broker) with opens := [] } =
        world.record (.opened setup.config.broker) := by
      rw [← outcomes]
      rfl
    simp only [World.record, outcomes, List.headD_nil, List.tail_nil] at unchanged ⊢
  | cons outcome opens =>
    simp only [World.record, outcomes, List.headD_cons, List.tail_cons]

theorem beginAttempt_eq (world : World σ ν) :
    setup.beginAttempt world =
      if (setup.greet world).handle.disconnectRequested then setup.giveUp (setup.greet world)
      else setup.openLink (setup.greet world) := rfl

theorem beginAttempt_cases (world : World σ ν) :
    setup.BeginCase world (setup.beginAttempt world) := by
  rw [beginAttempt_eq, openLink_eq]
  cases requested : (setup.greet world).handle.disconnectRequested with
  | true =>
    simp only [if_true]
    exact .cancelled requested
  | false =>
    simp only [Bool.false_eq_true, if_false]
    cases outcome : (setup.greet world).opens.headD .ok with
    | ok =>
      simp only [follow]
      exact .linked requested outcome
    | fail =>
      simp only [follow]
      exact .unreachable requested outcome
    | pend =>
      simp only [follow]
      exact .pending requested outcome

/-- What a packet calls for, by the packet. -/
inductive PacketCase (client : Client) (world : World σ ν) : Inbound → World σ ν → Prop where
  | accepted {answer : ConnAck} (success : answer.returnCode = 0)
      (first : world.handle.phase = .connecting) :
      PacketCase client world (.connAck answer)
        ((setup.enter .ready .ready (setup.enter .connected .connected world)).moveTo
          (.draining client))
  /-- The session was accepted before. -/
  | repeated {answer : ConnAck} (success : answer.returnCode = 0)
      (later : world.handle.phase ≠ .connecting) :
      PacketCase client world (.connAck answer) (world.moveTo (.draining client))
  | refused {answer : ConnAck} (failure : answer.returnCode ≠ 0) :
      PacketCase client world (.connAck answer) (setup.close world)
  /-- The payload is too large to be delivered. -/
  | dropped {message : Publish} (large : Limits.payload < message.payload.length) :
      PacketCase client world (.publish message) (world.moveTo (.draining client))
  | acknowledged {message : Publish} {packetId : UInt16}
      (small : message.payload.length ≤ Limits.payload) (qos : message.qos = .atLeastOnce)
      (identified : message.packetId = some packetId) :
      PacketCase client world (.publish message)
        (setup.transmit client (.acknowledge .pubAck packetId) .drain
          (setup.raise (.dataReceived message.topic message.payload) world))
  | delivered {message : Publish} (small : message.payload.length ≤ Limits.payload)
      (silent : message.qos = .atLeastOnce → message.packetId = none) :
      PacketCase client world (.publish message)
        ((setup.raise (.dataReceived message.topic message.payload) world).moveTo
          (.draining client))
  /-- The broker has taken a message that it holds until it is released. -/
  | released {packetId : UInt16} :
      PacketCase client world (.acknowledge .pubRec packetId)
        (setup.transmit client (.acknowledge .pubRel packetId) .drain world)
  | settled {kind : Acknowledgement} {packetId : UInt16} (other : kind ≠ .pubRec) :
      PacketCase client world (.acknowledge kind packetId) (world.moveTo (.draining client))
  | subscribed {answer : SubAck} :
      PacketCase client world (.subAck answer) (world.moveTo (.draining client))
  | pinged : PacketCase client world .pingResp (world.moveTo (.draining client))

theorem handlePacket_cases (client : Client) (packet : Inbound) (world : World σ ν) :
    setup.PacketCase client world packet (setup.handlePacket client packet world) := by
  cases packet with
  | connAck answer =>
    simp only [handlePacket, ConnectReason.ofCode_eq_success_iff]
    split
    · next success =>
      split
      · next first => exact .accepted success first
      · next later => exact .repeated success later
    · next failure => exact .refused failure
  | publish message =>
    simp only [handlePacket]
    split
    · next large => exact .dropped large
    · next small =>
      have small := Nat.le_of_not_lt small
      split
      · next packetId qos identified => exact .acknowledged small qos identified
      · next other =>
        refine .delivered small fun qos => ?_
        cases identified : message.packetId with
        | none => rfl
        | some packetId => exact absurd identified (other packetId qos)
  | acknowledge kind packetId =>
    cases kind with
    | pubRec => exact .released
    | pubAck | pubRel | pubComp => exact .settled (by simp)
  | subAck answer => exact .subscribed
  | pingResp => exact .pinged

/-- What a step does, by the stage at which it is taken. -/
inductive StepCase (world : World σ ν) : World σ ν → Prop where
  /-- Connect requests are served from now on. -/
  | served (stage : world.stage = .resting) (asked : world.next = some .forever) :
      StepCase world ({ world with next := none, serving := true }.moveTo .awaitingRequest)
  | begunOnce (stage : world.stage = .resting) (asked : world.next = some .once) :
      StepCase world (setup.beginAttempt { world with next := none, serving := false })
  | begunServing (stage : world.stage = .awaitingRequest)
      (asked : world.handle.connectSignal = true) :
      StepCase world
        (setup.beginAttempt { world with handle := { world.handle with connectSignal := false } })
  | linked (stage : world.stage = .opening) (answer : world.openAnswer = .ok) :
      StepCase world (setup.beginSession world)
  | unreachable (stage : world.stage = .opening) (answer : world.openAnswer = .fail) :
      StepCase world (setup.giveUp world)
  | sendFailed {client : Client} {packet : Outbound} {frame : Bytes} {next : Continuation}
      (stage : world.stage = .sending client packet frame next)
      (mode : world.link.sendMode = .fail) :
      StepCase world (setup.close (world.record (.handed packet frame false)))
  | sentForTurn {client : Client} {packet : Outbound} {frame : Bytes}
      (stage : world.stage = .sending client packet frame .turn)
      (mode : world.link.sendMode = .ok) :
      StepCase world
        (beginTurn (client.sentAt world.now) (world.record (.handed packet frame true)))
  | sentForDrain {client : Client} {packet : Outbound} {frame : Bytes}
      (stage : world.stage = .sending client packet frame .drain)
      (mode : world.link.sendMode = .ok) :
      StepCase world ((world.record (.handed packet frame true)).moveTo
        (.draining (client.sentAt world.now)))
  | sentForClose {client : Client} {packet : Outbound} {frame : Bytes}
      (stage : world.stage = .sending client packet frame .close)
      (mode : world.link.sendMode = .ok) :
      StepCase world (setup.close (world.record (.handed packet frame true)))
  /-- What was received cannot be framed, or a frame cannot be read. -/
  | unreadable {client : Client} {fault : ProtocolError} (stage : world.stage = .draining client)
      (reads : client.next.1 = .error fault) : StepCase world (setup.close world)
  | drained {client rested : Client} (stage : world.stage = .draining client)
      (reads : client.next = (.ok none, rested)) : StepCase world (beginTurn rested world)
  | handled {client rested : Client} {packet : Inbound} {after : World σ ν}
      (stage : world.stage = .draining client) (reads : client.next = (.ok (some packet), rested))
      (follows : setup.PacketCase rested (world.record (.handled packet)) packet after) :
      StepCase world after
  /-- The buffer has no free space to receive into. -/
  | crowded {client : Client} {deadline : Micros} {armed : Bool}
      (stage : world.stage = .selecting client deadline armed)
      (full : client.release.room = 0) : StepCase world (setup.close world)
  | hungUp {client : Client} {deadline : Micros} {armed : Bool} {link : Link}
      (stage : world.stage = .selecting client deadline armed) (free : client.release.room ≠ 0)
      (arrives : world.link.receive? client.release.room = some (.ok [], link)) :
      StepCase world (setup.close { world with link })
  | linkFailed {client : Client} {deadline : Micros} {armed : Bool} {fault : LinkFault}
      {link : Link} (stage : world.stage = .selecting client deadline armed)
      (free : client.release.room ≠ 0)
      (arrives : world.link.receive? client.release.room = some (.error fault, link)) :
      StepCase world (setup.close { world with link })
  | received {client : Client} {deadline : Micros} {armed : Bool} {bytes : Bytes} {link : Link}
      (stage : world.stage = .selecting client deadline armed) (free : client.release.room ≠ 0)
      (nonempty : bytes ≠ [])
      (arrives : world.link.receive? client.release.room = some (.ok bytes, link)) :
      StepCase world (({ world with link }.record (.received bytes)).moveTo
        (.draining (client.release.absorb bytes)))
  /-- The deadline of a turn without keep-alive has passed. -/
  | idled {client : Client} {deadline : Micros}
      (stage : world.stage = .selecting client deadline true) (free : client.release.room ≠ 0)
      (quiet : world.link.receive? client.release.room = none) (due : deadline ≤ world.now)
      (off : client.options.keepAlive = 0) : StepCase world (beginTurn client.release world)
  | pinging {client : Client} {deadline : Micros}
      (stage : world.stage = .selecting client deadline true) (free : client.release.room ≠ 0)
      (quiet : world.link.receive? client.release.room = none) (due : deadline ≤ world.now)
      (on : client.options.keepAlive ≠ 0) :
      StepCase world (setup.transmit client.release .pingReq .turn world)
  | requested {client : Client} {deadline : Micros} {armed : Bool} {request : Request}
      {requests : List Request} (stage : world.stage = .selecting client deadline armed)
      (free : client.release.room ≠ 0)
      (quiet : world.link.receive? client.release.room = none)
      (early : armed = true → world.now < deadline)
      (queued : world.handle.requests = request :: requests) :
      StepCase world
        (setup.transmit client.release.takeId.2 (requestPacket client.release.takeId.1 request)
          .turn { world with handle := { world.handle with requests } })
  | disconnecting {client : Client} {deadline : Micros} {armed : Bool}
      (stage : world.stage = .selecting client deadline armed) (free : client.release.room ≠ 0)
      (quiet : world.link.receive? client.release.room = none)
      (early : armed = true → world.now < deadline) (empty : world.handle.requests = [])
      (asked : world.handle.disconnectSignal = true) :
      StepCase world (setup.transmit client.release .disconnect .close
        { world with handle := { world.handle with disconnectSignal := false } })

variable {setup} {world after : World σ ν}

theorem send_cases {client : Client} {packet : Outbound} {frame : Bytes} {next : Continuation}
    (stage : world.stage = .sending client packet frame next)
    (taken : setup.send client packet frame next world = some after) :
    setup.StepCase world after := by
  unfold send Link.send? at taken
  cases mode : world.link.sendMode with
  | pend => simp [mode] at taken
  | fail =>
    simp only [mode, Option.some.injEq] at taken
    subst taken
    exact .sendFailed stage mode
  | ok =>
    simp only [mode, Option.some.injEq] at taken
    subst taken
    cases next with
    | turn => exact .sentForTurn stage mode
    | drain => exact .sentForDrain stage mode
    | close => exact .sentForClose stage mode

theorem drain_cases {client : Client} (stage : world.stage = .draining client) :
    setup.StepCase world (setup.drain client world) := by
  unfold drain
  match reads : client.next with
  | (.error fault, _) => exact .unreadable stage (congrArg Prod.fst reads)
  | (.ok none, rested) => exact .drained stage reads
  | (.ok (some packet), rested) =>
    exact .handled stage reads (setup.handlePacket_cases rested packet _)

theorem selectIdle_cases {client : Client} {deadline : Micros} {armed : Bool}
    (stage : world.stage = .selecting client deadline armed) (free : client.release.room ≠ 0)
    (quiet : world.link.receive? client.release.room = none)
    (taken : setup.selectIdle client.release deadline armed world = some after) :
    setup.StepCase world after := by
  unfold selectIdle keepAlive at taken
  split at taken
  · next timeout =>
    simp only [Bool.and_eq_true, decide_eq_true_eq] at timeout
    obtain ⟨rfl, due⟩ := timeout
    simp only [Option.some.injEq] at taken
    subst taken
    split
    · next off => exact .idled stage free quiet due off
    · next on => exact .pinging stage free quiet due on
  · next waiting =>
    have early : armed = true → world.now < deadline := by
      rintro rfl
      simpa using waiting
    split at taken
    · next request requests queued =>
      simp only [Option.some.injEq] at taken
      subst taken
      exact .requested stage free quiet early queued
    · next empty =>
      split at taken
      · next asked =>
        simp only [Option.some.injEq] at taken
        subst taken
        exact .disconnecting stage free quiet early empty asked
      · cases taken

theorem select_cases {client : Client} {deadline : Micros} {armed : Bool}
    (stage : world.stage = .selecting client deadline armed)
    (taken : setup.select client deadline armed world = some after) :
    setup.StepCase world after := by
  simp only [select] at taken
  split at taken
  · next full =>
    simp only [Option.some.injEq] at taken
    subst taken
    exact .crowded stage full
  · next free =>
    split at taken
    · next link arrives =>
      simp only [Option.some.injEq] at taken
      subst taken
      exact .hungUp stage free arrives
    · next bytes link nonempty arrives =>
      simp only [Option.some.injEq] at taken
      subst taken
      refine .received stage free ?_ arrives
      rintro rfl
      exact nonempty rfl
    · next fault link arrives =>
      simp only [Option.some.injEq] at taken
      subst taken
      exact .linkFailed stage free arrives
    · next quiet => exact selectIdle_cases stage free quiet taken

/-- Every step of the task is one of the cases. -/
theorem step_cases (taken : setup.step world = some after) : setup.StepCase world after := by
  unfold step at taken
  split at taken
  · next stage =>
    split at taken
    · cases taken
    · next asked =>
      simp only [Option.some.injEq] at taken
      subst taken
      exact .begunOnce stage asked
    · next asked =>
      simp only [Option.some.injEq] at taken
      subst taken
      exact .served stage asked
  · next stage =>
    split at taken
    · next asked =>
      simp only [Option.some.injEq] at taken
      subst taken
      exact .begunServing stage asked
    · cases taken
  · next stage =>
    split at taken
    · cases taken
    · next answered =>
      simp only [Option.some.injEq] at taken
      subst taken
      cases answer : world.openAnswer with
      | ok => exact .linked stage answer
      | fail => exact .unreachable stage answer
      | pend => exact absurd answer answered
  · next client packet frame next stage => exact send_cases stage taken
  · next client stage =>
    simp only [Option.some.injEq] at taken
    subst taken
    exact drain_cases stage
  · next client deadline armed stage => exact select_cases stage taken

end Setup

end Uplink
