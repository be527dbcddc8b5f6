import Uplink.Proofs.Backend.Deeds
import Uplink.Proofs.Backend.Requests
import Uplink.Proofs.Packet.Fitting
import Uplink.Proofs.Packet.Reading

/-!
# The acts of an attempt

`Setup.Act` says for every step of an attempt what the task did in it and to which stage it
led, and `Setup.FirstAct` says so for the step that begins the attempt. Since every packet
of a session fits its buffer, a session never ends for want of room.
`Attempt.deeds_induction` carries an invariant of deeds and stages through an attempt.
-/

namespace Uplink

namespace Setup

open Entry

variable {σ ν : Type} (setup : Setup σ ν) {before world after : World σ ν} {client : Client}
  {packet : Outbound}

/-! ## Packets of a session fit -/

theorem modest_connect : setup.options.connect.Modest := .connect setup.sessionId.fits

theorem modest_requestPacket (packetId : UInt16) (request : Request) :
    (requestPacket packetId request).Modest := by
  cases request with
  | publish message => exact .publish message.topic.fits message.fits (fun _ => nofun)
  | subscribe topic => exact .subscribe topic.fits

/-- What a session sends is sent. -/
theorem transmit_of_modest (modest : packet.Modest)
    (capacity : client.capacity = Limits.packetBuffer) (next : Continuation) (world : World σ ν) :
    ∃ frame, packet.encode Limits.packetBuffer = .ok frame ∧
      setup.transmit client packet next world =
        world.moveTo (.sending client packet frame next) := by
  obtain ⟨frame, framed⟩ := modest.exists_frame (Nat.le_refl Limits.packetBuffer)
  refine ⟨frame, framed, ?_⟩
  simp only [transmit, Client.encode, capacity, framed]

/-! ## Deeds of a step -/

/-- A new session's client. -/
def freshClient (now : Micros) : Client := .start setup.options Limits.packetBuffer now

/-- The deadline of a turn that begins now. -/
def deadline (client : Client) (now : Micros) : Micros :=
  now + (client.timeLeft now).getD idleWait

/-- What the task did in the step that began an attempt at a moment, and where it went. -/
inductive FirstAct (now : Micros) : List (Entry ν) → Stage → Prop where
  | cancelled {rested : Stage} (isOver : rested.isBusy = false) :
      FirstAct now [.raised .connecting .connecting, .raised .disconnected .disconnected] rested
  | unreachable {rested : Stage} (isOver : rested.isBusy = false) :
      FirstAct now [.raised .connecting .connecting, .opened setup.config.broker,
        .raised .disconnected .disconnected] rested
  | linked (frame : Bytes) :
      FirstAct now [.raised .connecting .connecting, .opened setup.config.broker]
        (.sending (setup.freshClient now) setup.options.connect frame .turn)
  | pending :
      FirstAct now [.raised .connecting .connecting, .opened setup.config.broker] .opening

/-- What the task did in a step of an attempt under way, and where it went. -/
inductive Act (world : World σ ν) : List (Entry ν) → Stage → Prop where
  | linked (stage : world.stage = .opening) (frame : Bytes) :
      Act world [] (.sending (setup.freshClient world.now) setup.options.connect frame .turn)
  | unreachable {rested : Stage} (stage : world.stage = .opening) (isOver : rested.isBusy = false) :
      Act world [.raised .disconnected .disconnected] rested
  | sendFailed {client : Client} {packet : Outbound} {frame : Bytes} {next : Continuation}
      {rested : Stage} (stage : world.stage = .sending client packet frame next)
      (isOver : rested.isBusy = false) :
      Act world [.handed packet frame false, .raised .disconnected .disconnected, .aborted] rested
  | sentForTurn {client : Client} {packet : Outbound} {frame : Bytes}
      (stage : world.stage = .sending client packet frame .turn) :
      Act world [.handed packet frame true]
        (.selecting (client.sentAt world.now) (deadline (client.sentAt world.now) world.now) false)
  | sentForDrain {client : Client} {packet : Outbound} {frame : Bytes}
      (stage : world.stage = .sending client packet frame .drain) :
      Act world [.handed packet frame true] (.draining (client.sentAt world.now))
  | sentForClose {client : Client} {packet : Outbound} {frame : Bytes} {rested : Stage}
      (stage : world.stage = .sending client packet frame .close) (isOver : rested.isBusy = false) :
      Act world [.handed packet frame true, .raised .disconnected .disconnected, .aborted] rested
  /-- What was received cannot be framed, or a frame cannot be read. -/
  | unreadable {client : Client} {fault : ProtocolError} {rested : Stage}
      (stage : world.stage = .draining client) (reads : client.next.1 = .error fault)
      (isOver : rested.isBusy = false) :
      Act world [.raised .disconnected .disconnected, .aborted] rested
  | drained {client rested : Client} (stage : world.stage = .draining client)
      (reads : client.next = (.ok none, rested)) :
      Act world [] (.selecting rested (deadline rested world.now) false)
  | refused {client rested : Client} {packet : Inbound} {last : Stage}
      (stage : world.stage = .draining client) (reads : client.next = (.ok (some packet), rested))
      (refuses : packet.refuses = true) (isOver : last.isBusy = false) :
      Act world [.handled packet, .raised .disconnected .disconnected, .aborted] last
  | settled {client rested : Client} {packet : Inbound} (stage : world.stage = .draining client)
      (reads : client.next = (.ok (some packet), rested)) (welcome : packet.refuses = false)
      (silent : packet.answer? = none) :
      Act world (.handled packet :: tidings world.handle.phase packet) (.draining rested)
  | answered {client rested : Client} {packet : Inbound} {answer : Outbound}
      (stage : world.stage = .draining client) (reads : client.next = (.ok (some packet), rested))
      (welcome : packet.refuses = false) (owed : packet.answer? = some answer) (frame : Bytes) :
      Act world (.handled packet :: tidings world.handle.phase packet)
        (.sending rested answer frame .drain)
  /-- The broker hangs up, the link fails, or there is no space to receive into. -/
  | broken {client : Client} {deadline : Micros} {armed : Bool} {rested : Stage}
      (stage : world.stage = .selecting client deadline armed) (isOver : rested.isBusy = false) :
      Act world [.raised .disconnected .disconnected, .aborted] rested
  | received {client : Client} {deadline : Micros} {armed : Bool} {bytes : Bytes}
      (stage : world.stage = .selecting client deadline armed) :
      Act world [.received bytes] (.draining (client.release.absorb bytes))
  | idled {client : Client} {due : Micros} (stage : world.stage = .selecting client due true)
      (off : client.options.keepAlive = 0) :
      Act world [] (.selecting client.release (deadline client.release world.now) false)
  | pinging {client : Client} {due : Micros} (stage : world.stage = .selecting client due true)
      (late : due ≤ world.now) (on : client.options.keepAlive ≠ 0) (frame : Bytes) :
      Act world [] (.sending client.release .pingReq frame .turn)
  | requested {client : Client} {deadline : Micros} {armed : Bool} {request : Request}
      (stage : world.stage = .selecting client deadline armed) (frame : Bytes) :
      Act world [] (.sending client.release.takeId.2
        (requestPacket client.release.takeId.1 request) frame .turn)
  | disconnecting {client : Client} {deadline : Micros} {armed : Bool}
      (stage : world.stage = .selecting client deadline armed)
      (asked : world.handle.disconnectSignal = true) (frame : Bytes) :
      Act world [] (.sending client.release .disconnect frame .close)

/-- The step led from a world to another as `Act` has it. -/
def Acts (world after : World σ ν) : Prop :=
  ∃ deeds, world.Does deeds after ∧ setup.Act world deeds after.stage

section

variable {setup}

theorem Acts.of_moveTo {deeds : List (Entry ν)} {stage : Stage} (does : world.Does deeds after)
    (acts : setup.Act world deeds stage) : setup.Acts world (after.moveTo stage) :=
  ⟨deeds, does.to_trace rfl, acts⟩

theorem Acts.of_transmit {deeds : List (Entry ν)} {next : Continuation} (modest : packet.Modest)
    (capacity : client.capacity = Limits.packetBuffer) (does : world.Does deeds after)
    (acts : ∀ frame, setup.Act world deeds (.sending client packet frame next)) :
    setup.Acts world (setup.transmit client packet next after) := by
  obtain ⟨frame, -, sent⟩ := setup.transmit_of_modest modest capacity next after
  rw [sent]
  exact .of_moveTo does (acts frame)

/-- Closing is the last that the task does in an attempt. -/
theorem Acts.of_close {deeds : List (Entry ν)} (active : after.handle.active = true)
    (does : world.Does deeds after)
    (acts : ∀ rested : Stage, rested.isBusy = false →
      setup.Act world (deeds ++ [.raised .disconnected .disconnected, .aborted]) rested) :
    setup.Acts world (setup.close after) := by
  obtain ⟨ends, rests⟩ := setup.does_close _ active
  exact ⟨_, does.append ends, acts _ rests⟩

end

/-- What the task does with a packet that it took. -/
theorem acts_of_packetCase {client rested : Client} {packet : Inbound}
    (active : world.handle.active = true) (stage : world.stage = .draining client)
    (fit : rested.capacity = Limits.packetBuffer)
    (reads : client.next = (.ok (some packet), rested))
    (follows : setup.PacketCase rested (world.record (.handled packet)) packet after) :
    setup.Acts world after := by
  let taken : World σ ν := world.record (.handled packet)
  have takes : world.Does [.handled packet] taken := .record rfl trivial
  cases follows with
  | @accepted answer success first =>
    have tells : taken.Does (tidings world.handle.phase (.connAck answer))
        (setup.enter .ready .ready (setup.enter .connected .connected taken)) := by
      have phase : world.handle.phase = .connecting := first
      rw [tidings, if_pos phase]
      exact (setup.does_enter _ _ taken active).append
        (setup.does_enter _ _ _ (setup.enter_active _ _ taken active))
    have welcome : (Inbound.connAck answer).refuses = false := by simp [Inbound.refuses, success]
    exact .of_moveTo (takes.append tells) (.settled stage reads welcome rfl)
  | @repeated answer success later =>
    have tells : taken.Does (tidings world.handle.phase (.connAck answer)) taken := by
      have phase : world.handle.phase ≠ .connecting := later
      rw [tidings, if_neg phase]
      exact .of_trace rfl
    have welcome : (Inbound.connAck answer).refuses = false := by simp [Inbound.refuses, success]
    exact .of_moveTo (takes.append tells) (.settled stage reads welcome rfl)
  | refused failure =>
    refine .of_close active takes fun last isOver => ?_
    exact .refused stage reads (by simpa [Inbound.refuses] using failure) isOver
  | @dropped message large =>
    have undelivered := Nat.not_le.mpr large
    have tells : taken.Does (tidings world.handle.phase (.publish message)) taken := by
      simp only [tidings, Inbound.delivery?, if_neg undelivered]
      exact .of_trace rfl
    have silent : (Inbound.publish message).answer? = none := by
      simp [Inbound.answer?, undelivered]
    exact .of_moveTo (takes.append tells) (.settled stage reads rfl silent)
  | @acknowledged message packetId small qos identified =>
    have tells : taken.Does (tidings world.handle.phase (.publish message))
        (setup.raise (.dataReceived message.topic message.payload) taken) := by
      simp only [tidings, Inbound.delivery?, if_pos small]
      exact setup.does_raise _ taken active
    have owed : (Inbound.publish message).answer? = some (.acknowledge .pubAck packetId) := by
      simp [Inbound.answer?, small, qos, identified]
    exact .of_transmit (.acknowledge .pubAck packetId) fit (takes.append tells) fun frame =>
      .answered stage reads rfl owed frame
  | @delivered message small silent =>
    have tells : taken.Does (tidings world.handle.phase (.publish message))
        (setup.raise (.dataReceived message.topic message.payload) taken) := by
      simp only [tidings, Inbound.delivery?, if_pos small]
      exact setup.does_raise _ taken active
    have silent : (Inbound.publish message).answer? = none := by
      simp only [Inbound.answer?]
      split
      · next both => rw [silent both.2, Option.map_none]
      · rfl
    exact .of_moveTo (takes.append tells) (.settled stage reads rfl silent)
  | @released packetId =>
    exact .of_transmit (.acknowledge .pubRel packetId) fit takes fun frame =>
      .answered stage reads rfl rfl frame
  | @settled kind packetId other =>
    refine .of_moveTo takes (.settled stage reads rfl ?_)
    cases kind with
    | pubRec => exact absurd rfl other
    | pubAck | pubRel | pubComp => rfl
  | subscribed | pinged => exact .of_moveTo takes (.settled stage reads rfl rfl)

theorem acts_of_stepCase (busy : world.stage.isBusy = true) (active : world.handle.active = true)
    (fit : world.stage.Fit) (follows : setup.StepCase world after) : setup.Acts world after := by
  have nothing : world.Does [] world := .of_trace rfl
  have handedOver (packet : Outbound) (frame : Bytes) (taken : Bool) :
      world.Does [.handed packet frame taken] (world.record (.handed packet frame taken)) :=
    .record rfl trivial
  cases follows with
  | served stage | begunOnce stage | begunServing stage => simp [stage, Stage.isBusy] at busy
  | linked stage =>
    have fresh : (setup.freshClient world.now).capacity = Limits.packetBuffer := rfl
    rw [beginSession]
    exact .of_transmit setup.modest_connect fresh (nothing.to_trace rfl) fun frame =>
      .linked stage frame
  | unreachable stage =>
    obtain ⟨ends, rests⟩ := setup.does_giveUp _ active
    exact ⟨_, ends, .unreachable stage rests⟩
  | sendFailed stage =>
    exact .of_close active (handedOver _ _ _) fun last isOver => .sendFailed stage isOver
  | sentForTurn stage =>
    exact .of_moveTo (handedOver _ _ _) (.sentForTurn stage)
  | sentForDrain stage =>
    exact .of_moveTo (handedOver _ _ _) (.sentForDrain stage)
  | sentForClose stage =>
    exact .of_close active (handedOver _ _ _) fun last isOver => .sentForClose stage isOver
  | unreadable stage reads =>
    exact .of_close active nothing fun last isOver => .unreadable stage reads isOver
  | drained stage reads =>
    exact .of_moveTo nothing (.drained stage reads)
  | handled stage reads follows =>
    rw [stage] at fit
    exact setup.acts_of_packetCase active stage ((Client.frame_of_next reads).2.trans fit) reads
      follows
  | crowded stage => exact .of_close active nothing fun last isOver => .broken stage isOver
  | hungUp stage | linkFailed stage =>
    exact .of_close active (nothing.to_trace rfl) fun last isOver => .broken stage isOver
  | @received client deadline armed bytes link stage =>
    have taken : ({ world with link } : World σ ν).Does [.received bytes]
        (({ world with link } : World σ ν).record (.received bytes)) := .record rfl trivial
    exact .of_moveTo ((nothing.to_trace rfl).append taken) (.received stage)
  | idled stage free quiet due off =>
    exact .of_moveTo nothing (.idled stage off)
  | pinging stage free quiet due on =>
    rw [stage] at fit
    exact .of_transmit .pingReq fit nothing fun frame => .pinging stage due on frame
  | requested stage =>
    rw [stage] at fit
    exact .of_transmit (modest_requestPacket _ _) fit (nothing.to_trace rfl) fun frame =>
      .requested stage frame
  | disconnecting stage free quiet early empty asked =>
    rw [stage] at fit
    exact .of_transmit .disconnect fit (nothing.to_trace rfl) fun frame =>
      .disconnecting stage asked frame

/-- The connection request of a session fits, so a session always begins. -/
theorem beginSession_eq (world : World σ ν) : ∃ frame, setup.beginSession world =
    { world with link := world.link.forget }.moveTo
      (.sending (setup.freshClient world.now) setup.options.connect frame .turn) := by
  have fresh : (setup.freshClient world.now).capacity = Limits.packetBuffer := rfl
  obtain ⟨frame, -, sent⟩ := setup.transmit_of_modest setup.modest_connect fresh .turn
    { world with link := world.link.forget }
  exact ⟨frame, sent⟩

/-- The step that begins an attempt does what `FirstAct` says. -/
theorem acts_of_beginCase (begins : setup.BeginCase before.prepared after) :
    ∃ deeds, before.Does deeds after ∧ setup.FirstAct before.now deeds after.stage := by
  have greets := setup.does_greet before
  have dials := greets.append (setup.does_dial _)
  have active := setup.greet_active before.prepared
  cases begins with
  | cancelled =>
    obtain ⟨ends, rests⟩ := setup.does_giveUp _ active
    exact ⟨_, greets.append ends, .cancelled rests⟩
  | unreachable =>
    obtain ⟨ends, rests⟩ := setup.does_giveUp (setup.dial (setup.greet before.prepared)) active
    exact ⟨_, dials.append ends, .unreachable rests⟩
  | linked =>
    have now : (setup.dial (setup.greet before.prepared)).now = before.now :=
      (congrArg Prod.fst (setup.greet_outset before.prepared)).trans before.prepared_now
    obtain ⟨frame, begun⟩ := setup.beginSession_eq (setup.dial (setup.greet before.prepared))
    rw [begun]
    refine ⟨_, dials.to_trace rfl, ?_⟩
    rw [World.moveTo_stage, now]
    exact .linked frame
  | pending => exact ⟨_, dials.to_trace rfl, .pending⟩

variable {setup}

/-- Every world of an attempt of a run is sound. -/
theorem Attempt.sound (attempt : setup.Attempt before world) (sound : before.Sound) :
    world.Sound := by
  induction attempt with
  | begun due => exact setup.sound_move sound .step
  | continued earlier underway move ih => exact setup.sound_move ih move

/-- The clients of an attempt have buffers of the size that packets are made for. -/
theorem Attempt.fit (attempt : setup.Attempt before world) (sound : before.Sound)
    (busy : world.stage.isBusy = true) : world.stage.Fit :=
  ((attempt.kept setup (attempt.due.requests_eq_nil sound)).1 busy).2

/-- Every step of an attempt under way does what `Act` says. -/
theorem Attempt.acts (attempt : setup.Attempt before world) (sound : before.Sound)
    (busy : world.stage.isBusy = true) (follows : setup.StepCase world after) :
    setup.Acts world after :=
  setup.acts_of_stepCase busy ((attempt.sound sound).taken busy) (attempt.fit sound busy) follows

/-- What holds of the deeds and the stage when an attempt has begun, and is kept by what
the task does after these deeds, holds as long as the attempt goes on. -/
theorem Attempt.does_induction {motive : List (Entry ν) → Stage → Prop}
    (begun : ∀ {deeds stage}, setup.FirstAct before.now deeds stage → motive deeds stage)
    (acted : ∀ {world deeds more stage}, setup.Attempt before world → world.stage.isBusy = true →
      before.Does deeds world → motive deeds world.stage → setup.Act world more stage →
      motive (deeds ++ more) stage)
    (waited : ∀ {deeds stage}, motive deeds stage → motive deeds stage.waiting)
    (attempt : setup.Attempt before world) (sound : before.Sound) :
    motive ((world.since before).filter isDeed) world.stage := by
  have carried : ∃ deeds, before.Does deeds world ∧ motive deeds world.stage := by
    induction attempt with
    | begun due =>
      rw [move, step_of_due setup due]
      obtain ⟨deeds, does, acts⟩ := setup.acts_of_beginCase (setup.beginAttempt_cases _)
      exact ⟨deeds, does, begun acts⟩
    | @continued world earlier underway move ih =>
      obtain ⟨deeds, does, holds⟩ := ih
      have active := (earlier.sound sound).taken underway
      generalize moved : setup.move world move = after
      cases setup.move_cases moved with
      | idled => exact ⟨deeds, does, holds⟩
      | stepped follows =>
        obtain ⟨more, doesMore, acts⟩ := earlier.acts sound underway follows
        exact ⟨deeds ++ more, does.append doesMore, acted earlier underway does holds acts⟩
      | called request =>
        have calls : world.Does [] (world.call request).2 :=
          ⟨_, world.grows_call request, rfl, by simpa [OnDuty] using ⟨_, active, rfl⟩⟩
        refine ⟨deeds, ?_, holds⟩
        simpa using does.append calls
      | beside left =>
        refine ⟨deeds, does.to_trace left.trace, ?_⟩
        rcases left.stage with same | waits
        · rwa [same]
        · rw [waits]
          exact waited holds
  obtain ⟨deeds, does, holds⟩ := carried
  rwa [does.since_eq]

/-- The same for what is kept whatever was done before. -/
theorem Attempt.deeds_induction {motive : List (Entry ν) → Stage → Prop}
    (begun : ∀ {deeds stage}, setup.FirstAct before.now deeds stage → motive deeds stage)
    (acted : ∀ {world deeds more stage}, setup.Attempt before world → world.stage.isBusy = true →
      motive deeds world.stage → setup.Act world more stage → motive (deeds ++ more) stage)
    (waited : ∀ {deeds stage}, motive deeds stage → motive deeds stage.waiting)
    (attempt : setup.Attempt before world) (sound : before.Sound) :
    motive ((world.since before).filter isDeed) world.stage :=
  attempt.does_induction begun (fun earlier busy _ => acted earlier busy) waited sound

variable (setup)

/-- The clients of all sessions have buffers of the size that packets are made for. -/
theorem fit_play (handlerState : σ) (opens : List Outcome) (moves : List Move)
    (busy : (setup.play (.initial handlerState opens) moves).stage.isBusy = true) :
    (setup.play (.initial handlerState opens) moves).stage.Fit := by
  obtain ⟨earlier, -, attempt⟩ := setup.exists_attempt rfl busy
  exact attempt.fit (setup.sound_play handlerState opens earlier) busy

/-- What a step is made of, the task did on a taken slot. -/
theorem exists_does_step (sound : world.Sound) (fit : world.stage.isBusy = true → world.stage.Fit) :
    ∃ deeds, world.Does deeds (setup.move world .step) := by
  generalize moved : setup.move world .step = after
  cases setup.move_cases moved with
  | idled => exact ⟨[], .of_trace rfl⟩
  | stepped follows =>
    cases busy : world.stage.isBusy with
    | true =>
      obtain ⟨deeds, does, -⟩ := setup.acts_of_stepCase busy (sound.taken busy) (fit busy) follows
      exact ⟨deeds, does⟩
    | false =>
      obtain ⟨-, begins⟩ | ⟨trace, -⟩ := follows.begin_or_same busy
      · obtain ⟨deeds, does, -⟩ := setup.acts_of_beginCase begins
        exact ⟨deeds, does⟩
      · exact ⟨[], .of_trace trace⟩
  | beside left => exact ⟨[], .of_trace left.trace⟩

end Setup

end Uplink
