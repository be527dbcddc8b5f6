import Uplink.Proofs.Backend.Endings

/-!
# The receive buffer of sessions

The task works on the client of its session as a trial does, and keeps its buffer tidy
(`Stage.Tidy`). So what `Trial.Roomy` says of trials holds of every session at every moment,
and of all that a session can find too large only what the broker sends is left: the
announcement of a frame that the buffer cannot hold, and the answer to a subscription with
more codes than a client takes.
-/

namespace Uplink

namespace Stage

/-- The client of the session. -/
def client? : Stage → Option Client
  | sending client _ _ _ | draining client | selecting client _ _ => some client
  | resting | awaitingRequest | opening => none

@[simp] theorem client?_waiting (stage : Stage) : stage.waiting.client? = stage.client? := by
  cases stage <;> rfl

theorem client?_of_rested {stage : Stage} (isOver : stage.isBusy = false) :
    stage.client? = none := by
  cases stage with
  | sending | draining | selecting => cases isOver
  | resting | awaitingRequest | opening => rfl

/-- The receive buffer of the session is tidy, if there is a session. -/
def Tidy (stage : Stage) : Prop :=
  ∀ client, stage.client? = some client → client.Tidy Limits.packetBuffer

theorem tidy_of_rested {stage : Stage} (isOver : stage.isBusy = false) : stage.Tidy := by
  intro client isClient
  rw [client?_of_rested isOver] at isClient
  cases isClient

theorem tidy_of_client {stage : Stage} {client : Client} (isClient : stage.client? = some client)
    (tidy : client.Tidy Limits.packetBuffer) : stage.Tidy := by
  intro other isOther
  cases isClient.symm.trans isOther
  exact tidy

end Stage

namespace Setup

variable {σ ν : Type} (setup : Setup σ ν) {world after : World σ ν} {client : Client}

theorem tidy_giveUp (world : World σ ν) : (setup.giveUp world).stage.Tidy := by
  obtain ⟨marks, ends⟩ := setup.exists_ends_giveUp world
  exact Stage.tidy_of_rested ends.ended

theorem tidy_close (world : World σ ν) : (setup.close world).stage.Tidy := by
  obtain ⟨marks, ends⟩ := setup.exists_ends_close world
  exact Stage.tidy_of_rested ends.ended

/-- Sending keeps the buffer of the client. -/
theorem tidy_transmit (tidy : client.Tidy Limits.packetBuffer) (packet : Outbound)
    (next : Continuation) (world : World σ ν) :
    (setup.transmit client packet next world).stage.Tidy := by
  unfold transmit
  split
  · exact Stage.tidy_of_client rfl tidy
  · exact setup.tidy_close world

theorem tidy_beginSession (world : World σ ν) : (setup.beginSession world).stage.Tidy := by
  have fresh : (setup.freshClient world.now).Tidy Limits.packetBuffer := Client.tidy_start _ _ _
  rw [beginSession_eq_transmit]
  exact setup.tidy_transmit fresh _ _ _

theorem tidy_beginAttempt (world : World σ ν) : (setup.beginAttempt world).stage.Tidy := by
  have begins := setup.beginAttempt_cases world
  generalize setup.beginAttempt world = after at begins ⊢
  cases begins with
  | cancelled | unreachable => exact setup.tidy_giveUp _
  | linked => exact setup.tidy_beginSession _
  | pending => exact nofun

variable {setup} in
/-- Every step of the task keeps the buffer tidy. -/
theorem StepCase.tidy (follows : setup.StepCase world after) (tidy : world.stage.Tidy) :
    after.stage.Tidy := by
  cases follows with
  | served => exact nofun
  | begunOnce | begunServing => exact setup.tidy_beginAttempt _
  | linked => exact setup.tidy_beginSession world
  | unreachable => exact setup.tidy_giveUp world
  | sendFailed | sentForClose | unreadable | crowded | hungUp | linkFailed =>
    exact setup.tidy_close _
  | sentForTurn stage | sentForDrain stage =>
    rw [stage] at tidy
    exact Stage.tidy_of_client rfl ((tidy _ rfl).of_store rfl)
  | drained stage reads =>
    rw [stage] at tidy
    have rested := (tidy _ rfl).next
    rw [reads] at rested
    exact Stage.tidy_of_client rfl rested
  | handled stage reads follows =>
    rw [stage] at tidy
    have rested := (tidy _ rfl).next
    rw [reads] at rested
    cases follows with
    | refused => exact setup.tidy_close _
    | acknowledged | released => exact setup.tidy_transmit rested _ _ _
    | accepted | repeated | dropped | delivered | settled | subscribed | pinged =>
      exact Stage.tidy_of_client rfl rested
  | received stage free nonempty arrives =>
    rw [stage] at tidy
    exact Stage.tidy_of_client rfl
      ((tidy _ rfl).release.absorb (Link.length_le_of_receive? arrives))
  | idled stage =>
    rw [stage] at tidy
    exact Stage.tidy_of_client rfl (tidy _ rfl).release
  | pinging stage | disconnecting stage =>
    rw [stage] at tidy
    exact setup.tidy_transmit (tidy _ rfl).release _ _ _
  | @requested client deadline armed request requests stage =>
    rw [stage] at tidy
    have numbered : client.release.takeId.2.Tidy Limits.packetBuffer :=
      (tidy client rfl).release.of_store rfl
    exact setup.tidy_transmit numbered _ _ _

/-- The receive buffer of every session is tidy at every moment. -/
theorem tidy_play (handlerState : σ) (opens : List Outcome) (moves : List Move) :
    (setup.play (.initial handlerState opens) moves).stage.Tidy := by
  refine setup.play_induction (motive := fun world => world.stage.Tidy)
    (fun world move tidy => ?_) (Stage.tidy_of_rested rfl) moves
  generalize moved : setup.move world move = after
  cases setup.move_cases moved with
  | idled => exact tidy
  | stepped follows => exact follows.tidy tidy
  | called request => exact tidy
  | beside left =>
    rcases left.stage with stage | stage
    · rwa [stage]
    · rw [stage, Stage.Tidy, Stage.client?_waiting]
      exact tidy

/-! ## What is found too large -/

/-- The fault that ends the session in the next step: one that the step meets, or that of a
packet that the step sets out to send. -/
def Fails (world : World σ ν) (fault : SessionError LinkFault) : Prop :=
  world.fault? = some fault ∨
    ∃ client packet misfit, setup.Sends world client packet ∧
      client.encode packet = .error misfit ∧ fault = .protocol misfit

/-- A session only finds too large what the broker sends so. -/
theorem fails_tooLarge_iff (handlerState : σ) (opens : List Outcome) (moves : List Move) :
    setup.Fails (setup.play (.initial handlerState opens) moves) (.protocol .payloadTooLarge) ↔
      ∃ client, (setup.play (.initial handlerState opens) moves).stage = .draining client ∧
        Frame.TooLarge Limits.packetBuffer client.unread := by
  have fit := setup.fit_play handlerState opens moves
  have room {client : Client} {deadline : Micros} {armed : Bool}
      (stage : (setup.play (.initial handlerState opens) moves).stage =
        .selecting client deadline armed) : client.release.room ≠ 0 := by
    have busy : (setup.play (.initial handlerState opens) moves).stage.isBusy = true := by
      rw [stage]
      rfl
    obtain ⟨earlier, -, attempt⟩ := setup.exists_attempt rfl busy
    exact attempt.room_ne_zero (setup.sound_play handlerState opens earlier) stage
  generalize setup.play (.initial handlerState opens) moves = world at fit room ⊢
  constructor
  · rintro (meets | ⟨client, packet, misfit, sends, misfits, -⟩)
    · unfold World.fault? at meets
      cases stage : world.stage with
      | resting | awaitingRequest | opening => simp [stage] at meets
      | sending =>
        rw [stage] at meets
        dsimp only at meets
        split at meets <;> cases meets
      | draining client =>
        rw [stage] at fit meets
        have capacity : client.capacity = Limits.packetBuffer := fit rfl
        refine ⟨client, rfl, capacity ▸ Client.next_eq_tooLarge_iff.mp ?_⟩
        dsimp only at meets
        split at meets
        · next fails =>
          cases meets
          exact fails
        · split at meets <;> cases meets
        · cases meets
      | selecting client deadline armed =>
        rw [stage] at meets
        dsimp only at meets
        rw [if_neg (room stage)] at meets
        split at meets <;> cases meets
    · -- What the step sets out to send fits.
      obtain ⟨frame, next, framed, -⟩ := sends.exists_frame fit
      cases framed.symm.trans misfits
  · rintro ⟨client, stage, large⟩
    rw [stage] at fit
    have capacity : client.capacity = Limits.packetBuffer := fit rfl
    rw [← capacity] at large
    left
    simp only [World.fault?, stage, Client.next_eq_tooLarge_iff.mpr large]

/-- The receive buffer of every client with room for a header is roomy at every moment, those
of all sessions included. Therefore a session only finds too large, of what it receives and of
what it sends, a frame that is announced beyond its buffer and the answer to a subscription
with more codes than a client takes. -/
theorem receive_buffer_roomy {capacity : Nat} (wide : 5 ≤ capacity) :
    (∀ (options : SessionOptions) (start now : Micros) (link : Link) (steps : List TrialStep),
      (Transcript.ofSteps { client := Client.start options capacity start, link, now }
        steps).trial.Roomy capacity) ∧
    ∀ (handlerState : σ) (opens : List Outcome) (moves : List Move),
      let world : World σ ν := setup.play (.initial handlerState opens) moves
      (∀ client, world.stage.client? = some client →
        ({ client, link := world.link, now := world.now } : Trial).Roomy Limits.packetBuffer) ∧
      (setup.Fails world (.protocol .payloadTooLarge) ↔
        ∃ client, world.stage = .draining client ∧
          Frame.TooLarge Limits.packetBuffer client.unread) := by
  refine ⟨Transcript.roomy_ofSteps wide, fun handlerState opens moves => ⟨?_, ?_⟩⟩
  · intro client isClient
    exact Transcript.roomy_of_tidy (by decide) (setup.tidy_play handlerState opens moves client
      isClient)
  · exact setup.fails_tooLarge_iff handlerState opens moves

end Setup

/-- The broker announces a message for which no session has room. -/
def Move.oversizedMessage : List Move :=
  [.ask .once, .step, .deliver (.data [0x30, 0x80, 0x0A]), .step, .step]

/-- Five bytes are enough for a buffer not to wedge, and a session fails once it sees that
announcement. -/
theorem Setup.greeter_overwhelmed :
    5 ≤ 5 ∧
      (Transcript.ofSteps { client := Client.start { clientId := "id" } 5 0 }
        [.deliver (.data [0xD0, 0, 0x40]), .fill, .next]).trial.Roomy 5 ∧
      greeter.Fails (greeter.play (.initial 0 []) Move.oversizedMessage)
        (.protocol .payloadTooLarge) := by
  obtain ⟨roomy, sessions⟩ := receive_buffer_roomy greeter (Nat.le_refl 5)
  refine ⟨Nat.le_refl 5, roomy _ _ _ _ _, ?_⟩
  have oversized : Frame.Oversized Limits.packetBuffer [0x30, 0x80, 0x0A] :=
    Frame.length?_eq_tooLarge_iff.mp rfl
  exact (sessions 0 [] Move.oversizedMessage).2.mpr
    ⟨{ Client.start greeter.options Limits.packetBuffer 0 with buffered := [0x30, 0x80, 0x0A] },
      by decide +kernel, .inl oversized⟩

end Uplink
