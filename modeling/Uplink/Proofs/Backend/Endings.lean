import Uplink.Proofs.Backend.Parting
import Uplink.Proofs.Packet.Layout
import Uplink.Proofs.Session.Room

/-!
# How sessions end

`World.Cause` lists the causes for which a session ends: it takes its leave because it was
asked to, its link fails or is hung up, the broker refuses it, or what was received cannot be
framed or read. Two others that the task provides for never arise. A packet that does not fit
would end a session, but the limits on what a session carries leave all of its packets room
(`Setup.Fitting`), so each one that a step sets out to send (`Setup.Sends`) is sent. A full
receive buffer would end it too, but a turn only begins when the bytes at hand are no
complete frame, and such bytes leave room.
-/

namespace Uplink

/-! ## Packets that fit -/

/-- A packet fits the buffer of a session, whatever stands in the buffer. -/
def Outbound.Fits (packet : Outbound) : Prop :=
  ∀ buffer : Bytes, buffer.length = Limits.packetBuffer →
    ∃ encoded, packet.encodeInto buffer = .ok encoded

theorem Outbound.Modest.fits {packet : Outbound} (modest : packet.Modest) : packet.Fits := by
  intro buffer size
  obtain ⟨frame, framed⟩ := modest.exists_frame (Nat.le_refl Limits.packetBuffer)
  obtain ⟨encoded, encodes, -⟩ := Except.map_eq_ok_iff.mp framed
  have encodable := Outbound.exists_encodeInto_iff.mp ⟨encoded, encodes⟩
  rw [List.length_replicate, ← size] at encodable
  exact Outbound.exists_encodeInto_iff.mpr encodable

/-- The packet of a call that was accepted is that of a queued request. -/
theorem Handle.modest_of_accepted {handle after : Handle} {call : Call}
    {packet : UInt16 → Outbound} (accepted : handle.perform call = (.ok (), after))
    (asks : call.packet? = some packet) (packetId : UInt16) : (packet packetId).Modest := by
  cases Handle.perform_cases accepted with
  | @queued _ request accepts isPacket =>
    cases asks.symm.trans isPacket
    exact Setup.modest_requestPacket packetId request
  | connected | disconnected | alone => cases asks

namespace Setup

variable {σ ν : Type} (setup : Setup σ ν)

/-- All packets of the sessions of a device fit. -/
structure Fitting (id : String) : Prop where
  /-- What a call asks for fits under every identifier, if the call was accepted. -/
  requested : ∀ (handle : Handle) (call : Call) (after : Handle) (packet : UInt16 → Outbound),
    handle.perform call = (.ok (), after) → call.packet? = some packet →
      ∀ packetId, (packet packetId).Fits
  introduced : (setup.introduction id).Fits
  acknowledged : ∀ kind packetId, (Outbound.acknowledge kind packetId).Fits
  pinged : Outbound.pingReq.Fits
  left : Outbound.disconnect.Fits

theorem fitting_of_named {id : String}
    (named : SessionId.compose setup.config.clientIdPrefix id = .ok setup.sessionId) :
    setup.Fitting id where
  requested _ _ _ _ accepted asks packetId :=
    (Handle.modest_of_accepted accepted asks packetId).fits
  introduced := by
    rw [← connect_eq_introduction named]
    exact setup.modest_connect.fits
  acknowledged kind packetId := (Outbound.Modest.acknowledge kind packetId).fits
  pinged := Outbound.Modest.pingReq.fits
  left := Outbound.Modest.disconnect.fits

/-! ## Packets that a step sends -/

/-- The packet that the next step of the task sets out to send, and the client whose buffer
it has to fit. -/
inductive Sends (world : World σ ν) : Client → Outbound → Prop where
  /-- The link is open as soon as the attempt begins. -/
  | beginning (due : world.AttemptDue)
      (proceeds : (setup.greet world.prepared).handle.disconnectRequested = false)
      (outcome : (setup.greet world.prepared).opens.headD .ok = .ok) :
      Sends world (setup.freshClient world.now) setup.options.connect
  | linked (stage : world.stage = .opening) (answer : world.openAnswer = .ok) :
      Sends world (setup.freshClient world.now) setup.options.connect
  | answering {client rested : Client} {packet : Inbound} {answer : Outbound}
      (stage : world.stage = .draining client) (reads : client.next = (.ok (some packet), rested))
      (owed : packet.answer? = some answer) : Sends world rested answer
  | pinging {client : Client} {deadline : Micros}
      (stage : world.stage = .selecting client deadline true) (free : client.release.room ≠ 0)
      (quiet : world.link.receive? client.release.room = none) (due : deadline ≤ world.now)
      (on : client.options.keepAlive ≠ 0) : Sends world client.release .pingReq
  | requested {client : Client} {deadline : Micros} {armed : Bool} {request : Request}
      {requests : List Request} (stage : world.stage = .selecting client deadline armed)
      (free : client.release.room ≠ 0)
      (quiet : world.link.receive? client.release.room = none)
      (early : armed = true → world.now < deadline)
      (queued : world.handle.requests = request :: requests) :
      Sends world client.release.takeId.2 (requestPacket client.release.takeId.1 request)
  | leaving {client : Client} {deadline : Micros} {armed : Bool}
      (stage : world.stage = .selecting client deadline armed) (free : client.release.room ≠ 0)
      (quiet : world.link.receive? client.release.room = none)
      (early : armed = true → world.now < deadline) (empty : world.handle.requests = [])
      (asked : world.handle.disconnectSignal = true) : Sends world client.release .disconnect

section

variable {setup} {before world after : World σ ν} {client : Client} {packet : Outbound}

theorem Sends.modest (sends : setup.Sends world client packet) : packet.Modest := by
  cases sends with
  | beginning | linked => exact setup.modest_connect
  | answering _ _ owed =>
    obtain ⟨packetId, rfl | rfl⟩ := Inbound.exists_of_answer? owed
    · exact .acknowledge .pubAck packetId
    · exact .acknowledge .pubRel packetId
  | pinging => exact .pingReq
  | requested => exact modest_requestPacket _ _
  | leaving => exact .disconnect

theorem Sends.capacity_eq (sends : setup.Sends world client packet)
    (fit : world.stage.isBusy = true → world.stage.Fit) :
    client.capacity = Limits.packetBuffer := by
  cases sends with
  | beginning | linked => rfl
  | answering stage reads =>
    rw [stage] at fit
    exact (Client.frame_of_next reads).2.trans (fit rfl)
  | pinging stage | requested stage | leaving stage =>
    rw [stage] at fit
    exact fit rfl

/-- A packet that calls for an acknowledgement has it sent. -/
theorem transmits_of_answer? {rested : Client} {inbound : Inbound} {answer : Outbound}
    (owed : inbound.answer? = some answer) (world : World σ ν) :
    ∃ last, setup.handlePacket rested inbound world = setup.transmit rested answer .drain last := by
  have follows := setup.handlePacket_cases rested inbound world
  generalize setup.handlePacket rested inbound world = after at follows ⊢
  cases follows with
  | accepted | repeated | refused | subscribed | pinged => cases owed
  | dropped large => simp [Inbound.answer?, Nat.not_le.mpr large] at owed
  | acknowledged small qos identified =>
    simp only [Inbound.answer?, small, qos, identified, and_self, if_true, Option.map_some,
      Option.some.injEq] at owed
    subst owed
    exact ⟨_, rfl⟩
  | delivered small silent =>
    simp only [Inbound.answer?] at owed
    split at owed
    · next asks =>
      rw [silent asks.2] at owed
      cases owed
    · cases owed
  | released =>
    cases owed
    exact ⟨_, rfl⟩
  | @settled kind packetId other =>
    cases kind with
    | pubRec => exact absurd rfl other
    | pubAck | pubRel | pubComp => cases owed

/-- A session begins with its introduction. -/
theorem beginSession_eq_transmit (world : World σ ν) :
    setup.beginSession world = setup.transmit (setup.freshClient world.now) setup.options.connect
      .turn { world with link := world.link.forget } := rfl

/-- Without arrived bytes a turn goes on to what comes next. -/
theorem step_of_quiet {turning : Client} {deadline : Micros} {armed : Bool}
    (stage : world.stage = .selecting turning deadline armed) (free : turning.release.room ≠ 0)
    (quiet : world.link.receive? turning.release.room = none) :
    setup.step world = setup.selectIdle turning.release deadline armed world := by
  simp only [step, stage, select, if_neg free, quiet]

/-- A deadline that has not passed leaves the turn to requests. -/
theorem not_due {deadline now : Micros} {armed : Bool} (early : armed = true → now < deadline) :
    ¬(armed && decide (deadline ≤ now)) = true := by
  rw [Bool.and_eq_true, decide_eq_true_eq]
  exact fun due => absurd (early due.1) (Nat.not_lt.mpr due.2)

/-- The step has the packet encoded for its client. -/
theorem Sends.transmits (sends : setup.Sends world client packet) :
    ∃ next last, setup.step world = some (setup.transmit client packet next last) := by
  cases sends with
  | beginning due proceeds outcome =>
    have now : (setup.dial (setup.greet world.prepared)).now = world.now :=
      (congrArg Prod.fst (setup.greet_outset world.prepared)).trans world.prepared_now
    have begins : setup.step world =
        some (setup.beginSession (setup.dial (setup.greet world.prepared))) := by
      rw [step_of_due setup due, beginAttempt_eq, openLink_eq]
      simp only [proceeds, outcome, Bool.false_eq_true, if_false, follow]
    rw [begins, beginSession_eq_transmit, now]
    exact ⟨_, _, rfl⟩
  | linked stage answer =>
    refine ⟨.turn, { world with link := world.link.forget }, ?_⟩
    rw [← beginSession_eq_transmit]
    simp only [step, stage, answer, follow]
  | @answering _ _ inbound _ stage reads owed =>
    obtain ⟨last, handles⟩ : ∃ last, setup.handlePacket client inbound
        (world.record (.handled inbound)) = setup.transmit client packet .drain last :=
      transmits_of_answer? owed _
    refine ⟨.drain, last, ?_⟩
    simp only [step, stage, drain, reads, handles]
  | pinging stage free quiet due on =>
    refine ⟨.turn, world, ?_⟩
    have announced : ¬(Client.release _).options.keepAlive = 0 := on
    rw [step_of_quiet stage free quiet]
    simp only [selectIdle, due, decide_true, Bool.and_self, if_true, keepAlive, if_neg announced]
  | @requested _ _ _ _ requests stage free quiet early queued =>
    refine ⟨.turn, { world with handle := { world.handle with requests } }, ?_⟩
    rw [step_of_quiet stage free quiet]
    simp only [selectIdle, if_neg (not_due early), queued]
  | leaving stage free quiet early empty asked =>
    refine ⟨.close, { world with handle := { world.handle with disconnectSignal := false } }, ?_⟩
    rw [step_of_quiet stage free quiet]
    simp only [selectIdle, if_neg (not_due early), empty, asked, if_true]

/-- What the step sets out to send it has in hand afterwards. -/
theorem Sends.exists_frame (sends : setup.Sends world client packet)
    (fit : world.stage.isBusy = true → world.stage.Fit) :
    ∃ frame next, client.encode packet = .ok frame ∧
      (setup.move world .step).stage = .sending client packet frame next := by
  have capacity := sends.capacity_eq fit
  obtain ⟨next, last, steps⟩ := sends.transmits
  obtain ⟨frame, framed, sent⟩ := setup.transmit_of_modest sends.modest capacity next last
  refine ⟨frame, next, ?_, ?_⟩
  · rw [Client.encode, capacity, framed]
  · rw [move, steps, sent]
    rfl

end

end Setup

/-! ## Causes -/

/-- Why the next step of the task ends the session of an attempt that began in `before`. -/
inductive World.Cause {σ ν : Type} (before world : World σ ν) : Prop where
  /-- The session has taken its leave, as it was asked to in the attempt. -/
  | left {client : Client} {frame : Bytes}
      (stage : world.stage = .sending client .disconnect frame .close)
      (mode : world.link.sendMode = .ok)
      (asked : .called .disconnect (.ok ()) ∈ world.since before)
  | sendFailed {client : Client} {packet : Outbound} {frame : Bytes} {next : Continuation}
      (stage : world.stage = .sending client packet frame next)
      (mode : world.link.sendMode = .fail)
  | linkFailed {client : Client} {deadline : Micros} {armed : Bool} {fault : LinkFault}
      {link : Link} (stage : world.stage = .selecting client deadline armed)
      (arrives : world.link.receive? client.release.room = some (.error fault, link))
  | hungUp {client : Client} {deadline : Micros} {armed : Bool} {link : Link}
      (stage : world.stage = .selecting client deadline armed)
      (arrives : world.link.receive? client.release.room = some (.ok [], link))
  | refused {client rested : Client} {answer : ConnAck} (stage : world.stage = .draining client)
      (reads : client.next = (.ok (some (.connAck answer)), rested))
      (failure : answer.returnCode ≠ 0)
  /-- What was received cannot be framed. -/
  | unframed {client : Client} {fault : ProtocolError} (stage : world.stage = .draining client)
      (verdict : Frame.length? client.unread Limits.packetBuffer = .error fault)
  /-- A complete frame cannot be read. -/
  | undecodable {client : Client} {length : Nat} {fault : ProtocolError}
      (stage : world.stage = .draining client)
      (verdict : Frame.length? client.unread Limits.packetBuffer = .ok (some length))
      (reads : Inbound.decode (client.unread.take length) = .error fault)

namespace Setup

section

variable {σ ν : Type} {setup : Setup σ ν} {before world after : World σ ν} {client : Client}

/-- A turn finds room to receive. -/
theorem Attempt.room_ne_zero (attempt : setup.Attempt before world) (sound : before.Sound)
    {deadline : Micros} {armed : Bool} (stage : world.stage = .selecting client deadline armed) :
    client.release.room ≠ 0 := by
  have busy : world.stage.isBusy = true := by rw [stage]; rfl
  have fit := attempt.fit sound busy
  have waits := ((attempt.attentive sound).1 busy).drained (by rw [stage]; rfl)
  rw [stage] at fit waits
  have capacity : client.capacity = Limits.packetBuffer := fit
  refine Client.room_of_incomplete ?_ ?_
  · rw [capacity]
    decide
  · rw [capacity]
    exact waits

/-- A session only closes behind its leave. -/
theorem Attempt.disconnect_of_close (attempt : setup.Attempt before world) (sound : before.Sound)
    {packet : Outbound} {frame : Bytes}
    (stage : world.stage = .sending client packet frame .close) : packet = .disconnect := by
  obtain ⟨taken, -, speaking⟩ := (attempt.shown sound).1 (by rw [stage]; rfl)
  rw [stage] at speaking
  cases speaking with
  | speaking _ _ stays => exact absurd rfl stays
  | parting => rfl
  | listening _ _ free => cases free

/-- A step that ends a session has one of the causes. -/
theorem Attempt.cause (attempt : setup.Attempt before world) (sound : before.Sound)
    (mindful : before.handle.Mindful) (linked : world.stage.isLinked = true)
    (follows : setup.StepCase world after) (ended : after.stage.isBusy = false) :
    before.Cause world := by
  have fit := attempt.fit sound (Stage.isBusy_of_isLinked linked)
  have sent {client : Client} {packet : Outbound} {next : Continuation} {last : World σ ν}
      (ended : (setup.transmit client packet next last).stage.isBusy = false)
      (modest : packet.Modest) (capacity : client.capacity = Limits.packetBuffer) :
      before.Cause world := by
    obtain ⟨frame, -, sends⟩ := setup.transmit_of_modest modest capacity next last
    rw [sends] at ended
    cases ended
  cases follows with
  | served stage | begunOnce stage | begunServing stage | linked stage | unreachable stage =>
    rw [stage] at linked
    cases linked
  | sendFailed stage mode => exact .sendFailed stage mode
  | sentForTurn | sentForDrain | drained | received | idled => cases ended
  | @sentForClose client packet frame stage mode =>
    obtain rfl := attempt.disconnect_of_close sound stage
    have inHand : .disconnect ∈ world.stage.inHand := by rw [stage]; exact List.mem_cons_self
    exact .left stage mode ((attempt.bidden sound mindful).inHand inHand)
  | unreadable stage reads =>
    rw [stage] at fit
    have capacity : Client.capacity _ = Limits.packetBuffer := fit
    rcases Client.fault_of_next reads with unframed | ⟨length, complete, undecodable⟩
    · exact .unframed stage (capacity ▸ unframed)
    · exact .undecodable stage (capacity ▸ complete) undecodable
  | handled stage reads follows =>
    rw [stage] at fit
    have capacity := (Client.frame_of_next reads).2.trans fit
    cases follows with
    | refused failure => exact .refused stage reads failure
    | acknowledged => exact sent ended (.acknowledge .pubAck _) capacity
    | released => exact sent ended (.acknowledge .pubRel _) capacity
    | accepted | repeated | dropped | delivered | settled | subscribed | pinged => cases ended
  | crowded stage full => exact absurd full (attempt.room_ne_zero sound stage)
  | hungUp stage free arrives => exact .hungUp stage arrives
  | linkFailed stage free arrives => exact .linkFailed stage arrives
  | pinging stage =>
    rw [stage] at fit
    exact sent ended .pingReq fit
  | requested stage =>
    rw [stage] at fit
    exact sent ended (modest_requestPacket _ _) fit
  | disconnecting stage =>
    rw [stage] at fit
    exact sent ended .disconnect fit

end

variable {σ ν : Type} (setup : Setup σ ν) {before world : World σ ν}

/-- Each of the causes but a leave is a fault of the session. -/
theorem fault?_of_cause (cause : before.Cause world) (fit : world.stage.Fit) :
    (∃ client frame, world.stage = .sending client .disconnect frame .close ∧
      world.link.sendMode = .ok) ∨ ∃ fault, world.fault? = some fault := by
  cases cause with
  | left stage mode => exact .inl ⟨_, _, stage, mode⟩
  | sendFailed stage mode =>
    refine .inr ⟨.transport .simulated, ?_⟩
    simp only [World.fault?, stage, Link.send?, mode]
  | @linkFailed client _ _ fault _ stage arrives =>
    right
    by_cases full : client.release.room = 0
    · exact ⟨.protocol .payloadTooLarge, by simp only [World.fault?, stage, full, if_true]⟩
    · exact ⟨.transport fault, by simp only [World.fault?, stage, if_neg full, arrives]⟩
  | @hungUp client _ _ _ stage arrives =>
    right
    by_cases full : client.release.room = 0
    · exact ⟨.protocol .payloadTooLarge, by simp only [World.fault?, stage, full, if_true]⟩
    · exact ⟨.protocol .connectionClosed, by simp only [World.fault?, stage, if_neg full, arrives]⟩
  | @refused _ _ answer stage reads failure =>
    refine .inr ⟨.refused (.ofCode answer.returnCode), ?_⟩
    simp only [World.fault?, stage, reads, if_neg failure]
  | @unframed client fault stage verdict =>
    rw [stage] at fit
    have capacity : client.capacity = Limits.packetBuffer := fit
    refine .inr ⟨.protocol fault, ?_⟩
    simp only [World.fault?, stage, Client.next_of_fault (capacity ▸ verdict)]
  | @undecodable client length fault stage verdict reads =>
    rw [stage] at fit
    have capacity : client.capacity = Limits.packetBuffer := fit
    refine .inr ⟨.protocol fault, ?_⟩
    simp only [World.fault?, stage, Client.next_of_complete (capacity ▸ verdict), reads, Except.map]

/-- Each of the causes has the session closed. -/
theorem exists_close_of_cause (cause : before.Cause world) (fit : world.stage.Fit) :
    ∃ last, setup.step world = some (setup.close last) := by
  rcases fault?_of_cause cause fit with ⟨client, frame, stage, mode⟩ | ⟨fault, meets⟩
  · refine ⟨world.record (.handed .disconnect frame true), ?_⟩
    simp only [step, stage, send, Link.send?, mode]
  · obtain ⟨last, -, steps, -⟩ := setup.step_of_fault meets
    exact ⟨last, steps⟩

/-- Every packet of a session fits its buffer: the introduction of the device that the setup
was made for, whatever is requested and accepted, under every identifier, and what the session
sends on its own. So what a step sets out to send is in hand after it, also at the beginning of
a session, and a session ends in a step only for one of the causes, and for each of them. -/
theorem sessions_end_for_cause {id : String}
    (named : SessionId.compose setup.config.clientIdPrefix id = .ok setup.sessionId) :
    setup.Fitting id ∧
    (∀ (handlerState : σ) (opens : List Outcome) (moves : List Move),
      let world : World σ ν := setup.play (.initial handlerState opens) moves
      ∀ client packet, setup.Sends world client packet →
        ∃ frame next, client.encode packet = .ok frame ∧
          (setup.move world .step).stage = .sending client packet frame next) ∧
    ∀ (handlerState : σ) (opens : List Outcome) (history : List Move) (world : World σ ν),
      let before := setup.play (.initial handlerState opens) history
      setup.Attempt before world → world.stage.isLinked = true →
        ((setup.move world .step).stage.isBusy = false ↔ before.Cause world) := by
  refine ⟨setup.fitting_of_named named, ?_, ?_⟩
  · intro handlerState opens moves world client packet sends
    exact sends.exists_frame (setup.fit_play handlerState opens moves)
  · intro handlerState opens history world before attempt linked
    have sound := setup.sound_play handlerState opens history
    have mindful := setup.mindful_play handlerState opens history
    constructor
    · intro ended
      rw [move] at ended
      cases taken : setup.step world with
      | none =>
        rw [taken, Option.getD_none, Stage.isBusy_of_isLinked linked] at ended
        cases ended
      | some after =>
        rw [taken] at ended
        exact attempt.cause sound mindful linked (step_cases taken) ended
    · intro cause
      have fit := attempt.fit sound (Stage.isBusy_of_isLinked linked)
      obtain ⟨last, closes⟩ := setup.exists_close_of_cause cause fit
      obtain ⟨marks, ends⟩ := setup.exists_ends_close last
      rw [move, closes]
      exact ends.ended

end Setup

theorem Setup.Attempt.greeter_leaving :
    greeter.Attempt .asked (greeter.play .asked (.step :: Move.briefVisit.dropLast)) := by
  rw [play_cons]
  exact Attempt.play greeter (.begun (.inl ⟨rfl, rfl⟩)) (by decide +kernel)

/-- The session that a caller visits ends because it was asked to. -/
theorem Setup.greeter_leaves :
    SessionId.compose greeter.config.clientIdPrefix "1" = .ok greeter.sessionId ∧
      greeter.Fitting "1" ∧
      World.asked.Cause (greeter.play .asked (.step :: Move.briefVisit.dropLast)) := by
  have named : SessionId.compose greeter.config.clientIdPrefix "1" = .ok greeter.sessionId := rfl
  have attempt : greeter.Attempt (greeter.play (.initial 0 []) [.ask .once])
      (greeter.play .asked (.step :: Move.briefVisit.dropLast)) := Attempt.greeter_leaving
  obtain ⟨fitting, -, ends⟩ := sessions_end_for_cause greeter named
  exact ⟨named, fitting,
    (ends 0 [] [.ask .once] _ attempt (by decide +kernel)).mp (by decide +kernel)⟩

end Uplink
