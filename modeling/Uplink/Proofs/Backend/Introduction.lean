import Uplink.Proofs.Backend.Exchange

/-!
# The name that sessions give

A session begins with the packet that introduces it, and gives no other introduction later.
`Setup.Introduces` says so of all sessions of all runs of a setup: the broker only ever
hears one name.
-/

namespace Uplink

namespace Setup

open Entry

variable {σ ν : Type} {setup : Setup σ ν} {world after : World σ ν} {deeds : List (Entry ν)}
  {stage : Stage}

/-- Every session of a setup introduces itself to the broker under a name, with the packet
that it begins with, and none ever gives another name. -/
structure Introduces (setup : Setup σ ν) (name : String) : Prop where
  begins : ∀ world, ∃ client request frame,
    (setup.beginSession world).stage = .sending client (.connect request) frame .turn ∧
      request.clientId = name
  always : ∀ handlerState opens moves request frame taken,
    .handed (.connect request) frame taken ∈
        (setup.play (.initial handlerState opens) moves).history →
      request.clientId = name

/-- An attempt that begins has at most the introduction in hand. -/
theorem FirstAct.inHand_eq {now : Micros} (acts : setup.FirstAct now deeds stage)
    {packet : Outbound} (isInHand : packet ∈ stage.inHand) : packet = setup.options.connect := by
  cases acts with
  | cancelled isOver | unreachable isOver =>
    rw [Stage.inHand_of_rested isOver] at isInHand
    cases isInHand
  | linked => exact List.mem_singleton.mp isInHand
  | pending => cases isInHand

/-- The packet in hand is the introduction, a routine packet or the leave. -/
theorem Act.inHand_cases (acts : setup.Act world deeds stage) {packet : Outbound}
    (isInHand : packet ∈ stage.inHand) :
    packet = setup.options.connect ∨ packet.isRoutine = true ∨ packet = .disconnect := by
  cases acts with
  | unreachable _ isOver | unreadable _ _ isOver | refused _ _ _ isOver | broken _ isOver
  | sendFailed _ isOver | sentForClose _ isOver =>
    rw [Stage.inHand_of_rested isOver] at isInHand
    cases isInHand
  | sentForTurn | sentForDrain | drained | settled | received | idled => cases isInHand
  | linked => exact .inl (List.mem_singleton.mp isInHand)
  | answered _ _ _ owed =>
    rw [List.mem_singleton.mp isInHand]
    exact .inr (.inl (isRoutine_of_answer? owed))
  | pinging =>
    rw [List.mem_singleton.mp isInHand]
    exact .inr (.inl rfl)
  | requested =>
    rw [List.mem_singleton.mp isInHand]
    exact .inr (.inl (isRoutine_requestPacket _ _))
  | disconnecting => exact .inr (.inr (List.mem_singleton.mp isInHand))

/-- Only the introduction of the setup was given or is in hand to open a session. -/
structure Presents (opening : Outbound) (world : World σ ν) : Prop where
  given : ∀ request frame taken, .handed (.connect request) frame taken ∈ world.history →
    .connect request = opening
  inHand : ∀ request, .connect request ∈ world.stage.inHand → .connect request = opening

variable {opening : Outbound}

/-- What gives only the packet in hand to the link, and takes in hand what may be, keeps it. -/
theorem Presents.does (presents : Presents opening world) (does : world.Does deeds after)
    (given : ∀ packet frame taken, .handed packet frame taken ∈ deeds →
      packet ∈ world.stage.inHand)
    (inHand : ∀ request, .connect request ∈ after.stage.inHand → .connect request = opening) :
    Presents opening after := by
  refine ⟨fun request frame taken recorded => ?_, inHand⟩
  obtain ⟨entries, grows, -⟩ := id does
  rw [grows.history_eq, List.mem_append] at recorded
  rcases recorded with earlier | since
  · exact presents.given request frame taken earlier
  · rw [← grows.since_eq] at since
    exact presents.inHand request (given _ frame taken (does.mem_deeds since rfl))

theorem Presents.of_unmoved (presents : Presents opening world) (does : world.Does [] after)
    (stage : ∀ packet, packet ∈ after.stage.inHand → packet ∈ world.stage.inHand) :
    Presents opening after :=
  presents.does does nofun fun request isInHand => presents.inHand request (stage _ isInHand)

variable (setup)

theorem presents_play (handlerState : σ) (opens : List Outcome) (moves : List Move) :
    Presents setup.options.connect (setup.play (.initial handlerState opens) moves) := by
  induction moves using List.reverseRecOn with
  | nil => exact ⟨nofun, nofun⟩
  | append_singleton moves move ih =>
    have sound := setup.sound_play handlerState opens moves
    have fit := setup.fit_play handlerState opens moves
    rw [play_append, play_cons, play_nil]
    generalize setup.play (.initial handlerState opens) moves = world at ih sound fit ⊢
    generalize moved : setup.move world move = after
    cases setup.move_cases moved with
    | idled => exact ih
    | stepped follows =>
      cases busy : world.stage.isBusy with
      | true =>
        obtain ⟨deeds, does, acts⟩ :=
          setup.acts_of_stepCase busy (sound.taken busy) (fit busy) follows
        refine ih.does does (fun _ _ _ => acts.mem_inHand) fun request isInHand => ?_
        obtain same | routine | leave := acts.inHand_cases isInHand
        · exact same
        · cases routine
        · cases leave
      | false =>
        obtain ⟨-, begins⟩ | ⟨trace, -, stage⟩ := follows.begin_or_same busy
        · obtain ⟨deeds, does, acts⟩ := setup.acts_of_beginCase begins
          exact ih.does does (fun _ _ _ given => absurd given acts.not_mem_handed)
            fun request => acts.inHand_eq
        · refine ih.of_unmoved (.of_trace trace) fun packet isInHand => ?_
          rw [stage] at isInHand
          cases isInHand
    | called request =>
      refine ⟨fun connect frame taken recorded => ?_, ih.inHand⟩
      rw [(world.grows_call request).history_eq] at recorded
      exact ih.given connect frame taken (by simpa using recorded)
    | beside left =>
      refine ih.of_unmoved (.of_trace left.trace) fun packet isInHand => ?_
      rcases left.stage with stage | waits
      · rwa [stage] at isInHand
      · rwa [waits, Stage.inHand_waiting] at isInHand

/-- The name of a setup is the identifier of its sessions. -/
theorem introduces_sessionId : setup.Introduces setup.sessionId.text := by
  constructor
  · intro world
    obtain ⟨frame, begun⟩ := setup.beginSession_eq world
    exact ⟨_, _, frame, congrArg World.stage begun, rfl⟩
  · intro handlerState opens moves request frame taken recorded
    have same := (setup.presents_play handlerState opens moves).given request frame taken recorded
    rw [SessionOptions.connect, Outbound.connect.injEq] at same
    rw [same]
    rfl

end Setup

end Uplink
