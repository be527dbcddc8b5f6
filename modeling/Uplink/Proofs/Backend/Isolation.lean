import Uplink.Proofs.Backend.Attempts

/-!
# Sessions are isolated

Nothing of an old session reaches a new one. What has happened before is only carried
along: no step reads the trace. All that an old session leaves behind in the handle are
the two marks of a disconnect request, and they are forgotten as soon as the slot is
taken again, which is before anything reads them.
-/

namespace Uplink

namespace Handle

variable {handle : Handle} (requested signalled : Bool)

/-- The handle with other marks of a disconnect request. -/
def marked (handle : Handle) (requested signalled : Bool) : Handle :=
  { handle with disconnectRequested := requested, disconnectSignal := signalled }

/-- Requests do not look at the marks. -/
theorem enqueue_marked (request : Request) :
    (handle.marked requested signalled).enqueue request =
      (handle.enqueue request).map (·.marked requested signalled) := by
  unfold enqueue
  by_cases room : handle.requests.length < Limits.queuedRequests
  · simp [marked, room]
    rfl
  · simp [marked, room]
    rfl

theorem attempt_marked {call : Call} (notConnect : call ≠ .connect)
    (alone : call = .disconnect → handle.active = false) :
    (handle.marked requested signalled).attempt call =
      (handle.attempt call).map (·.marked requested signalled) := by
  have samePhase : (handle.marked requested signalled).phase = handle.phase := rfl
  cases call with
  | connect => exact absurd rfl notConnect
  | disconnect => simp [attempt, disconnect, marked, alone rfl, Except.map]
  | publish message =>
    simp only [attempt, publish, samePhase]
    split
    · cases PublishRequest.ofMessage message with
      | error reason => rfl
      | ok request => exact enqueue_marked requested signalled _
    · rfl
  | subscribe topic =>
    simp only [attempt, subscribe, samePhase]
    split
    · cases Topic.ofText topic with
      | error reason => rfl
      | ok owned => exact enqueue_marked requested signalled _
    · rfl

/-- On a free slot, a connect request forgets the marks, and other calls carry them along. -/
theorem perform_marked (free : handle.active = false) (call : Call) :
    (handle.marked requested signalled).perform call = handle.perform call ∨
      ((handle.marked requested signalled).perform call =
          ((handle.perform call).1, (handle.perform call).2.marked requested signalled) ∧
        (handle.perform call).2.active = false) := by
  by_cases isConnect : call = .connect
  · subst isConnect
    left
    simp [perform, attempt, connect, claim?, marked, free]
  · right
    constructor
    · simp only [perform, attempt_marked requested signalled isConnect fun _ => free]
      cases handle.attempt call <;> rfl
    · generalize performed : handle.perform call = result
      obtain ⟨answer, after⟩ := result
      cases perform_cases performed with
      | connected => exact absurd rfl isConnect
      | disconnected taken => simp [free] at taken
      | refused | alone | queued => exact free

end Handle

namespace World

variable {σ ν : Type}

/-- The world with a past in front of what has happened in it. -/
def onto (world : World σ ν) (past : List (Entry ν)) : World σ ν :=
  { world with trace := world.trace ++ past }

/-- The world with other marks of a disconnect request. -/
def marked (world : World σ ν) (requested signalled : Bool) : World σ ν :=
  { world with handle := world.handle.marked requested signalled }

/-- A world with a new backend and a new task: the broker, the clock and the state of the
handler are those of the old world, and so is what the task is asked to do. -/
def afresh (world : World σ ν) : World σ ν :=
  { World.initial world.handlerState world.opens with
    now := world.now
    link := world.link.forget
    openAnswer := world.openAnswer
    stage := world.stage
    serving := world.serving
    next := world.next }

end World

namespace Setup

variable {σ ν : Type} (setup : Setup σ ν)

/-! ## The past is carried along -/

section

variable (world : World σ ν) (past : List (Entry ν)) (client : Client)

theorem raise_onto (event : Event) :
    setup.raise event (world.onto past) = (setup.raise event world).onto past := by
  simp only [raise_eq]
  simp [World.onto, voice, remarks]

theorem enter_onto (phase : Phase) (event : Event) :
    setup.enter phase event (world.onto past) = (setup.enter phase event world).onto past :=
  setup.raise_onto (world.inPhase phase) past event

theorem finish_onto : finish (world.onto past) = (finish world).onto past := by
  cases serving : world.serving with
  | true => simp [finish, World.onto, World.moveTo, serving]
  | false => simp [finish, World.onto, World.moveTo, World.record, serving]

theorem giveUp_onto : setup.giveUp (world.onto past) = (setup.giveUp world).onto past := by
  rw [giveUp, enter_onto, finish_onto]
  rfl

theorem close_onto : setup.close (world.onto past) = (setup.close world).onto past := by
  have dropped : setup.close (world.onto past) =
      finish ({ (setup.enter .disconnected .disconnected world).record .aborted with
        link := (setup.enter .disconnected .disconnected world).link.forget }.onto past) := by
    simp only [close, enter_onto]
    rfl
  rw [dropped, finish_onto]
  rfl

theorem transmit_onto (packet : Outbound) (next : Continuation) :
    setup.transmit client packet next (world.onto past) =
      (setup.transmit client packet next world).onto past := by
  unfold transmit
  cases client.encode packet with
  | ok frame => rfl
  | error fault => exact setup.close_onto world past

theorem beginSession_onto :
    setup.beginSession (world.onto past) = (setup.beginSession world).onto past := by
  rw [beginSession, beginSession, ← transmit_onto]
  rfl

theorem follow_onto (outcome : Outcome) :
    setup.follow outcome (world.onto past) = (setup.follow outcome world).onto past := by
  cases outcome with
  | ok => exact setup.beginSession_onto world past
  | fail => exact setup.giveUp_onto world past
  | pend => rfl

theorem openLink_onto : setup.openLink (world.onto past) = (setup.openLink world).onto past := by
  rw [openLink_eq, openLink_eq]
  exact setup.follow_onto (setup.dial world) past _

theorem greet_onto : setup.greet (world.onto past) = (setup.greet world).onto past := by
  rw [greet, greet, ← enter_onto]
  rfl

theorem beginAttempt_onto :
    setup.beginAttempt (world.onto past) = (setup.beginAttempt world).onto past := by
  rw [beginAttempt_eq, beginAttempt_eq, greet_onto, giveUp_onto, openLink_onto]
  cases requested : (setup.greet world).handle.disconnectRequested <;>
    simp [World.onto, requested]

theorem handlePacket_onto (packet : Inbound) :
    setup.handlePacket client packet (world.onto past) =
      (setup.handlePacket client packet world).onto past := by
  cases packet with
  | connAck answer =>
    simp only [handlePacket, enter_onto, close_onto]
    split
    · by_cases first : world.handle.phase = .connecting
      · have samePhase : (world.onto past).handle.phase = .connecting := first
        rw [if_pos first, if_pos samePhase]
        rfl
      · have samePhase : (world.onto past).handle.phase ≠ .connecting := first
        rw [if_neg first, if_neg samePhase]
        rfl
    · rfl
  | publish message =>
    simp only [handlePacket, raise_onto, transmit_onto]
    split
    · rfl
    · split <;> rfl
  | acknowledge kind packetId =>
    cases kind with
    | pubRec => exact setup.transmit_onto world past _ _ _
    | pubAck | pubRel | pubComp => rfl
  | subAck answer => rfl
  | pingResp => rfl

theorem drain_onto :
    setup.drain client (world.onto past) = (setup.drain client world).onto past := by
  unfold drain
  split
  · exact setup.close_onto world past
  · rfl
  · exact setup.handlePacket_onto (world.record _) past _ _

theorem send_onto (packet : Outbound) (frame : Bytes) (next : Continuation) :
    setup.send client packet frame next (world.onto past) =
      (setup.send client packet frame next world).map (·.onto past) := by
  have sameLink : (world.onto past).link = world.link := rfl
  unfold send
  rw [sameLink]
  cases world.link.send? with
  | none => rfl
  | some result =>
    cases result with
    | error fault => exact congrArg some (setup.close_onto (world.record _) past)
    | ok sent =>
      cases next with
      | turn | drain => rfl
      | close => exact congrArg some (setup.close_onto (world.record _) past)

theorem keepAlive_onto :
    setup.keepAlive client (world.onto past) = (setup.keepAlive client world).onto past := by
  unfold keepAlive
  split
  · rfl
  · exact setup.transmit_onto world past _ _ _

theorem selectIdle_onto (deadline : Micros) (armed : Bool) :
    setup.selectIdle client deadline armed (world.onto past) =
      (setup.selectIdle client deadline armed world).map (·.onto past) := by
  have sameHandle : (world.onto past).handle = world.handle := rfl
  have sameNow : (world.onto past).now = world.now := rfl
  unfold selectIdle
  rw [sameHandle, sameNow, keepAlive_onto]
  split
  · rfl
  · cases world.handle.requests with
    | cons request requests =>
      exact congrArg some (setup.transmit_onto { world with
        handle := { world.handle with requests } } past _ _ _)
    | nil =>
      simp only
      split
      · exact congrArg some (setup.transmit_onto { world with
          handle := { world.handle with disconnectSignal := false } } past _ _ _)
      · rfl

theorem select_onto (deadline : Micros) (armed : Bool) :
    setup.select client deadline armed (world.onto past) =
      (setup.select client deadline armed world).map (·.onto past) := by
  have sameLink : (world.onto past).link = world.link := rfl
  simp only [select, sameLink]
  split
  · exact congrArg some (setup.close_onto world past)
  · split
    · next link _ => exact congrArg some (setup.close_onto { world with link } past)
    · rfl
    · next link _ => exact congrArg some (setup.close_onto { world with link } past)
    · exact setup.selectIdle_onto world past _ _ _

/-- No step reads what has happened before. -/
theorem step_onto : setup.step (world.onto past) = (setup.step world).map (·.onto past) := by
  have sameStage : (world.onto past).stage = world.stage := rfl
  have sameNext : (world.onto past).next = world.next := rfl
  have sameSignal : (world.onto past).handle.connectSignal = world.handle.connectSignal := rfl
  have sameAnswer : (world.onto past).openAnswer = world.openAnswer := rfl
  unfold step
  rw [sameStage]
  cases world.stage with
  | resting =>
    simp only [sameNext]
    cases world.next with
    | none => rfl
    | some job =>
      cases job with
      | once =>
        exact congrArg some (setup.beginAttempt_onto
          { world with stage := .resting, next := none, serving := false } past)
      | forever => rfl
  | awaitingRequest =>
    simp only [sameSignal]
    split
    · exact congrArg some (setup.beginAttempt_onto
        { world with
          stage := .awaitingRequest, handle := { world.handle with connectSignal := false } } past)
    · rfl
  | opening =>
    simp only [sameAnswer]
    cases world.openAnswer with
    | ok => exact congrArg some (setup.follow_onto world past _)
    | fail => exact congrArg some (setup.follow_onto world past _)
    | pend => rfl
  | sending client packet frame next => exact setup.send_onto world past _ _ _ _
  | draining client => exact congrArg some (setup.drain_onto world past _)
  | selecting client deadline armed => exact setup.select_onto world past _ _ _

/-- The past is carried along by every move. -/
theorem move_onto (move : Move) :
    setup.move (world.onto past) move = (setup.move world move).onto past := by
  cases move with
  | step =>
    simp only [Setup.move, step_onto]
    cases setup.step world <;> rfl
  | openResult outcome =>
    simp only [Setup.move, World.answerOpen]
    cases stage : world.stage <;> simp [World.onto, stage]
  | deliver | sendMode | advance | call | ask | wait => rfl

end

/-! ## The marks of a disconnect request are forgotten -/

section

variable {world : World σ ν} (requested signalled : Bool)

/-- Whoever takes a free slot forgets the marks. -/
theorem beginAttempt_marked (free : world.handle.active = false) :
    setup.beginAttempt (world.marked requested signalled) = setup.beginAttempt world := by
  have greeted : setup.greet (world.marked requested signalled) = setup.greet world := by
    simp [greet, Handle.claim?, World.marked, Handle.marked, free]
  rw [beginAttempt_eq, beginAttempt_eq, greeted]

/-- Without an attempt the marks stay or are forgotten. -/
theorem move_marked (free : world.handle.active = false) (rested : world.stage.isBusy = false)
    (move : Move) :
    setup.move (world.marked requested signalled) move = setup.move world move ∨
      (setup.move (world.marked requested signalled) move =
          (setup.move world move).marked requested signalled ∧
        (setup.move world move).handle.active = false ∧
        (setup.move world move).stage.isBusy = false) := by
  cases move with
  | step =>
    -- A due attempt takes the slot before anything reads the marks. Without one the task
    -- waits, or begins to serve requests.
    by_cases due : world.AttemptDue
    · left
      have markedDue : (world.marked requested signalled).AttemptDue := due
      have prepared : (world.marked requested signalled).prepared =
          world.prepared.marked requested signalled := by
        rcases due with ⟨stage, _⟩ | ⟨stage, _⟩ <;>
          simp [World.prepared, World.marked, Handle.marked, stage]
      have stillFree : world.prepared.handle.active = false := by
        rcases due with ⟨stage, _⟩ | ⟨stage, _⟩ <;> simp [World.prepared, stage, free]
      rw [Setup.move, Setup.move, step_of_due setup due, step_of_due setup markedDue, prepared,
        setup.beginAttempt_marked requested signalled stillFree]
      rfl
    · right
      have sameStage : (world.marked requested signalled).stage = world.stage := rfl
      have sameNext : (world.marked requested signalled).next = world.next := rfl
      have sameSignal : (world.marked requested signalled).handle.connectSignal =
        world.handle.connectSignal := rfl
      simp only [Setup.move, step, sameStage, sameNext, sameSignal]
      cases stage : world.stage with
      | resting =>
        cases asked : world.next with
        | none => exact ⟨rfl, free, rested⟩
        | some job =>
          cases job with
          | once => exact absurd (.inl ⟨stage, asked⟩) due
          | forever => exact ⟨rfl, free, rfl⟩
      | awaitingRequest =>
        cases asked : world.handle.connectSignal with
        | true => exact absurd (.inr ⟨stage, asked⟩) due
        | false => exact ⟨rfl, free, rested⟩
      | opening | sending | draining | selecting => simp [stage, Stage.isBusy] at rested
  | call request =>
    rcases Handle.perform_marked requested signalled free request with forgotten | ⟨carried, still⟩
    · left
      simp only [Setup.move, World.call, World.marked, forgotten]
    · refine .inr ⟨?_, still, rested⟩
      simp only [Setup.move, World.call, World.marked, carried]
      rfl
  | openResult outcome =>
    have sameStage : (world.marked requested signalled).stage = world.stage := rfl
    simp only [Setup.move, World.answerOpen, sameStage]
    cases stage : world.stage with
    | resting | awaitingRequest => exact .inr ⟨rfl, free, rested⟩
    | opening | sending | draining | selecting => simp [stage, Stage.isBusy] at rested
  | wait => exact .inr ⟨rfl, free, by simpa [Setup.move] using rested⟩
  | deliver | sendMode | advance | ask => exact .inr ⟨rfl, free, rested⟩

end

end Setup

namespace World

variable {σ ν : Type} {past : List (Entry ν)} {old new : World σ ν}

/-- An old world goes on as a new one does: it has a past, and as long as no attempt is
active, it may have other marks of a disconnect request. -/
inductive Resumes (past : List (Entry ν)) : World σ ν → World σ ν → Prop where
  | same (new : World σ ν) : Resumes past (new.onto past) new
  | rested {new : World σ ν} (requested signalled : Bool) (free : new.handle.active = false)
      (rested : new.stage.isBusy = false) :
      Resumes past ((new.marked requested signalled).onto past) new

/-- What can be observed of two worlds is the same, but for the past of the old one. Calls
with their answers, events, attempts to connect, packets and dropped links are all part of
the trace. -/
structure Alike (past : List (Entry ν)) (old new : World σ ν) : Prop where
  trace : old.trace = new.trace ++ past
  phase : old.handle.phase = new.handle.phase
  active : old.handle.active = new.handle.active
  handlerState : old.handlerState = new.handlerState
  link : old.link = new.link
  opens : old.opens = new.opens
  now : old.now = new.now

theorem Resumes.alike (resumes : Resumes past old new) : Alike past old new := by
  cases resumes with
  | same => constructor <;> rfl
  | rested => constructor <;> rfl

/-- Polls take the same number of steps. -/
theorem Resumes.budget_eq (resumes : Resumes past old new) : old.budget = new.budget := by
  cases resumes with
  | same => rfl
  | rested => rfl

/-- Without an attempt, nothing but marks is left of what was. -/
theorem Sound.resumes_afresh {world : World σ ν} (sound : world.Sound)
    (free : world.handle.active = false) : Resumes world.trace world world.afresh := by
  have rested : world.stage.isBusy = false := by
    cases busy : world.stage.isBusy with
    | true => exact absurd ((sound.taken busy).symm.trans free) nofun
    | false => rfl
  have idle := sound.idle rested
  have whole := sound.whole (.inl rested)
  have empty : world.handle.requests = [] := sound.orderly.1 (by rw [idle]; rfl)
  have unasked : world.handle.connectSignal = false := by
    cases asked : world.handle.connectSignal with
    | true => exact absurd ((sound.orderly.2 asked).symm.trans free) nofun
    | false => rfl
  have resumed : Resumes world.trace ((world.afresh.marked world.handle.disconnectRequested
      world.handle.disconnectSignal).onto world.trace) world.afresh :=
    .rested _ _ rfl rested
  have nothingElse : (world.afresh.marked world.handle.disconnectRequested
      world.handle.disconnectSignal).onto world.trace = world := by
    obtain ⟨now, ⟨inbound, chunk, sendMode⟩, opens, openAnswer,
      ⟨active, requested, phase, asked, signalled, requests⟩, stage, serving, next, state, trace⟩ :=
        world
    simp only at free idle whole empty unasked
    simp [afresh, initial, marked, Handle.marked, onto, Link.forget, free, idle, whole, empty,
      unasked]
  rwa [nothingElse] at resumed

end World

namespace Setup

variable {σ ν : Type} (setup : Setup σ ν) {past : List (Entry ν)} {old new : World σ ν}

/-- Every move keeps old and new together. -/
theorem resumes_move (resumes : World.Resumes past old new) (move : Move) :
    World.Resumes past (setup.move old move) (setup.move new move) := by
  cases resumes with
  | same =>
    rw [move_onto]
    exact .same _
  | rested requested signalled free rested =>
    rw [move_onto]
    rcases setup.move_marked requested signalled free rested move with
      forgotten | ⟨carried, stillFree, stillRested⟩
    · rw [forgotten]
      exact .same _
    · rw [carried]
      exact .rested requested signalled stillFree stillRested

theorem resumes_play (resumes : World.Resumes past old new) (moves : List Move) :
    World.Resumes past (setup.play old moves) (setup.play new moves) :=
  setup.play_related (motive := World.Resumes past)
    (fun move resumes => setup.resumes_move resumes move) resumes moves

theorem resumes_run (resumes : World.Resumes past old new) (stimuli : List Stimulus) :
    World.Resumes past (setup.run old stimuli) (setup.run new stimuli) :=
  setup.run_related (motive := World.Resumes past)
    (fun move resumes => setup.resumes_move resumes move) World.Resumes.budget_eq resumes stimuli

/-- Sessions are isolated: from any world without an active attempt, whatever happened
before, everything goes on as it does with a new backend and a new task. -/
theorem alike_afresh (handlerState : σ) (opens : List Outcome) (history : List Move)
    (free : (setup.play (.initial handlerState opens) history).handle.active = false) :
    (∀ moves, World.Alike (setup.play (.initial handlerState opens) history).trace
      (setup.play (setup.play (.initial handlerState opens) history) moves)
      (setup.play (setup.play (.initial handlerState opens) history).afresh moves)) ∧
    ∀ stimuli, World.Alike (setup.play (.initial handlerState opens) history).trace
      (setup.run (setup.play (.initial handlerState opens) history) stimuli)
      (setup.run (setup.play (.initial handlerState opens) history).afresh stimuli) := by
  have resumes := (setup.sound_play handlerState opens history).resumes_afresh free
  exact ⟨fun moves => (setup.resumes_play resumes moves).alike,
    fun stimuli => (setup.resumes_run resumes stimuli).alike⟩

/-- A session is asked to end before the broker answers. -/
def cancelledSession : List Move :=
  [.ask .once, .step, .call .disconnect, .step, .step, .step]

/-- A session that was asked to end leaves a mark behind, and nothing else. -/
theorem greeter_alike_afresh :
    (greeter.play (.initial 0 []) cancelledSession).handle.active = false ∧
      (greeter.play (.initial 0 []) cancelledSession).handle.disconnectRequested = true ∧
      ∀ moves, World.Alike (greeter.play (.initial 0 []) cancelledSession).trace
        (greeter.play (greeter.play (.initial 0 []) cancelledSession) moves)
        (greeter.play (greeter.play (.initial 0 []) cancelledSession).afresh moves) :=
  ⟨by decide +kernel, by decide +kernel,
    (alike_afresh greeter 0 [] cancelledSession (by decide +kernel)).1⟩

end Setup

end Uplink
