import Mathlib.Data.List.Induction
import Uplink.Backend.TableHandler
import Uplink.Proofs.Backend.Chronicle

/-!
# Attempts and reachable worlds

`Setup.Attempt before world` says that the attempt which the task begins in `before` has
come to `world`. It covers the attempt from its first step to the step that ends it, with
every interleaving of what the broker, the clock and callers do meanwhile.
`World.Sound` is what holds of every world that a run can reach.
-/

namespace Uplink

namespace Stage

/-- Waiting changes nothing but the timer. -/
@[simp] theorem isBusy_waiting (stage : Stage) : stage.waiting.isBusy = stage.isBusy := by
  cases stage <;> rfl

@[simp] theorem waiting_eq_resting (stage : Stage) : stage.waiting = resting ↔ stage = resting := by
  cases stage <;> simp [waiting]

@[simp] theorem waiting_eq_awaitingRequest (stage : Stage) :
    stage.waiting = awaitingRequest ↔ stage = awaitingRequest := by
  cases stage <;> simp [waiting]

@[simp] theorem waiting_eq_opening (stage : Stage) : stage.waiting = opening ↔ stage = opening := by
  cases stage <;> simp [waiting]

end Stage

/-- The next step of the task begins an attempt. -/
def World.AttemptDue {σ ν : Type} (world : World σ ν) : Prop :=
  (world.stage = .resting ∧ world.next = some .once) ∨
    (world.stage = .awaitingRequest ∧ world.handle.connectSignal = true)

/-- The world in which a due attempt begins: the request for it is used up. -/
def World.prepared {σ ν : Type} (world : World σ ν) : World σ ν :=
  match world.stage with
  | .resting => { world with next := none, serving := false }
  | _ => { world with handle := { world.handle with connectSignal := false } }

@[simp] theorem World.prepared_trace {σ ν : Type} (world : World σ ν) :
    world.prepared.trace = world.trace := by
  unfold World.prepared
  split <;> rfl

@[simp] theorem World.prepared_requests {σ ν : Type} (world : World σ ν) :
    world.prepared.handle.requests = world.handle.requests := by
  unfold World.prepared
  split <;> rfl

/-- The worlds of one attempt, from the step that begins it to the one that ends it. -/
inductive Setup.Attempt {σ ν : Type} (setup : Setup σ ν) (before : World σ ν) :
    World σ ν → Prop where
  | begun (due : before.AttemptDue) : Attempt setup before (setup.move before .step)
  | continued {world : World σ ν} (earlier : Attempt setup before world)
      (underway : world.stage.isBusy = true) (move : Move) :
      Attempt setup before (setup.move world move)

/-- What happens beside the task and the handle leaves them alone. Only a timer may start. -/
structure World.Beside {σ ν : Type} (world after : World σ ν) : Prop where
  trace : after.trace = world.trace
  handle : after.handle = world.handle
  stage : after.stage = world.stage ∨ after.stage = world.stage.waiting
  chunk : after.link.chunk = world.link.chunk
  serving : after.serving = world.serving

theorem World.Beside.isBusy_eq {σ ν : Type} {world after : World σ ν}
    (left : world.Beside after) : after.stage.isBusy = world.stage.isBusy := by
  rcases left.stage with stage | stage <;> simp [stage]

/-- What a move does, by what it changes. -/
inductive Setup.MoveCase {σ ν : Type} (setup : Setup σ ν) (world : World σ ν) :
    Move → World σ ν → Prop where
  /-- The task has to wait. -/
  | idled : MoveCase setup world .step world
  | stepped {after : World σ ν} (follows : setup.StepCase world after) :
      MoveCase setup world .step after
  | called (request : Call) : MoveCase setup world (.call request) (world.call request).2
  | beside {move : Move} {after : World σ ν} (left : world.Beside after) :
      MoveCase setup world move after

/-- What holds of every world that a run can reach. -/
structure World.Sound {σ ν : Type} (world : World σ ν) : Prop where
  orderly : world.handle.Orderly
  taken : world.stage.isBusy = true → world.handle.active = true
  idle : world.stage.isBusy = false → world.handle.phase = .idle
  /-- No chunk is begun without a link. -/
  whole : world.stage.isBusy = false ∨ world.stage = .opening → world.link.chunk = []
  resting : world.stage = .resting → world.serving = false
  serving : world.stage = .awaitingRequest → world.serving = true

/-- An attempt finds the queue empty. -/
theorem World.AttemptDue.requests_eq_nil {σ ν : Type} {world : World σ ν}
    (due : world.AttemptDue) (sound : world.Sound) : world.handle.requests = [] := by
  have idle : world.handle.phase = .idle := by
    refine sound.idle ?_
    rcases due with ⟨stage, _⟩ | ⟨stage, _⟩ <;> simp [stage, Stage.isBusy]
  exact sound.orderly.1 (by rw [idle]; rfl)

theorem Setup.Attempt.due {σ ν : Type} {setup : Setup σ ν} {before world : World σ ν}
    (attempt : setup.Attempt before world) : before.AttemptDue := by
  induction attempt with
  | begun due => exact due
  | continued earlier underway move due => exact due

/-- What the handle is like during an attempt. -/
def Handle.Engaged (handle : Handle) : Prop := handle.Orderly ∧ handle.active = true

theorem Handle.Engaged.perform {handle : Handle} (engaged : handle.Engaged) (call : Call) :
    (handle.perform call).2.Engaged :=
  ⟨engaged.1.perform call, Handle.perform_active engaged.2 call⟩

namespace Setup

variable {σ ν : Type} (setup : Setup σ ν) {world after : World σ ν} {stage : Stage}
  {client : Client} {packet : Outbound} {next : Continuation}

theorem engaged_raise (event : Event) (engaged : world.handle.Engaged) :
    (setup.raise event world).handle.Engaged :=
  setup.raise_handle_induction event world (fun _ call holds => holds.perform call) engaged

/-- An attempt begins with telling so. -/
theorem grows_greet_prepared (before : World σ ν) :
    before.Grows (setup.voice .connecting (before.prepared.claimed.inPhase .connecting))
      (setup.greet before.prepared) :=
  (setup.grows_greet before.prepared).trans (congrArg _ before.prepared_trace)

/-- A phase that accepts requests can be entered with any queue. -/
theorem engaged_enter {phase : Phase} (event : Event) (accepts : phase.acceptsRequests = true)
    (engaged : world.handle.Engaged) : (setup.enter phase event world).handle.Engaged := by
  refine setup.engaged_raise event ⟨⟨?_, engaged.1.2⟩, engaged.2⟩
  simp [accepts]

/-- A new attempt finds the queue of an idle handle empty. -/
theorem engaged_greet (orderly : world.handle.Orderly) (idle : world.handle.phase = .idle) :
    (setup.greet world).handle.Engaged := by
  have empty : world.handle.requests = [] := orderly.1 (by simp [idle, Phase.acceptsRequests])
  refine setup.engaged_raise _ ?_
  cases active : world.handle.active with
  | true => simp [Handle.claim?, active, Handle.Engaged, Handle.Orderly, empty]
  | false => simp [Handle.claim?, active, Handle.Engaged, Handle.Orderly, empty]

theorem sound_finish (whole : world.link.chunk = []) : (finish world).Sound := by
  rcases finish_cases world with ⟨serving, finished⟩ | ⟨serving, finished⟩
  · rw [finished]
    constructor <;> simp [Handle.Orderly, Handle.reset, Stage.isBusy, whole, serving]
  · rw [finished]
    constructor <;> simp [Handle.Orderly, Handle.reset, Stage.isBusy, whole, serving]

theorem sound_giveUp (whole : world.link.chunk = []) : (setup.giveUp world).Sound :=
  sound_finish (by simp [whole])

theorem sound_close (world : World σ ν) : (setup.close world).Sound := sound_finish rfl

/-- During an attempt the task can go on at any stage that has a link. -/
theorem sound_moveTo (engaged : world.handle.Engaged)
    (busy : stage.isBusy = true) (linked : stage ≠ .opening) : (world.moveTo stage).Sound := by
  constructor
  · exact engaged.1
  · exact fun _ => engaged.2
  · simp [busy]
  · simp [busy, linked]
  · rintro rfl
    cases busy
  · rintro rfl
    cases busy

theorem sound_beginTurn (engaged : world.handle.Engaged) :
    (beginTurn client world).Sound :=
  sound_moveTo engaged rfl (by simp)

theorem sound_transmit (engaged : world.handle.Engaged) :
    (setup.transmit client packet next world).Sound := by
  unfold transmit
  split
  · exact sound_moveTo engaged rfl (by simp)
  · exact setup.sound_close world

theorem sound_beginSession (engaged : world.handle.Engaged) :
    (setup.beginSession world).Sound := by
  unfold beginSession
  exact setup.sound_transmit engaged

theorem sound_begin (begins : setup.BeginCase world after) (orderly : world.handle.Orderly)
    (idle : world.handle.phase = .idle) (whole : world.link.chunk = []) : after.Sound := by
  have engaged := setup.engaged_greet orderly idle
  have greetWhole : (setup.greet world).link.chunk = [] := by simpa [greet] using whole
  cases begins with
  | cancelled => exact setup.sound_giveUp greetWhole
  | unreachable => exact setup.sound_giveUp greetWhole
  | linked => exact setup.sound_beginSession engaged
  | pending =>
    constructor
    · exact engaged.1
    · exact fun _ => engaged.2
    · simp [Stage.isBusy]
    · exact fun _ => greetWhole
    · simp
    · simp

theorem sound_handlePacket {packet : Inbound}
    (follows : setup.PacketCase client world packet after) (engaged : world.handle.Engaged) :
    after.Sound := by
  cases follows with
  | accepted =>
    exact sound_moveTo (setup.engaged_enter _ rfl (setup.engaged_enter _ rfl engaged)) rfl (by simp)
  | refused => exact setup.sound_close world
  | acknowledged => exact setup.sound_transmit (setup.engaged_raise _ engaged)
  | delivered => exact sound_moveTo (setup.engaged_raise _ engaged) rfl (by simp)
  | released => exact setup.sound_transmit engaged
  | repeated | dropped | settled | subscribed | pinged =>
    exact sound_moveTo engaged rfl (by simp)

/-- Every step leads to a sound world. -/
theorem sound_step (sound : world.Sound) (follows : setup.StepCase world after) :
    after.Sound := by
  have engaged {stage : Stage} (isStage : world.stage = stage) (busy : stage.isBusy = true) :
      world.handle.Engaged := ⟨sound.orderly, sound.taken (isStage ▸ busy)⟩
  cases follows with
  | served stage =>
    have idle := sound.idle (by simp [stage, Stage.isBusy])
    have whole := sound.whole (by simp [stage, Stage.isBusy])
    constructor
    · exact sound.orderly
    · simp [Stage.isBusy]
    · exact fun _ => idle
    · exact fun _ => whole
    · simp
    · exact fun _ => rfl
  | begunOnce stage =>
    exact setup.sound_begin (setup.beginAttempt_cases _) sound.orderly
      (sound.idle (by simp [stage, Stage.isBusy])) (sound.whole (by simp [stage, Stage.isBusy]))
  | begunServing stage =>
    exact setup.sound_begin (setup.beginAttempt_cases _) ⟨sound.orderly.1, nofun⟩
      (sound.idle (by simp [stage, Stage.isBusy])) (sound.whole (by simp [stage, Stage.isBusy]))
  | linked stage => exact setup.sound_beginSession (engaged stage rfl)
  | unreachable stage => exact setup.sound_giveUp (sound.whole (.inr stage))
  | sendFailed | sentForClose | unreadable | crowded | hungUp | linkFailed =>
    exact setup.sound_close _
  | sentForTurn stage | drained stage | idled stage =>
    exact sound_beginTurn (engaged stage rfl)
  | sentForDrain stage | received stage => exact sound_moveTo (engaged stage rfl) rfl (by simp)
  | handled stage reads follows => exact setup.sound_handlePacket follows (engaged stage rfl)
  | pinging stage => exact setup.sound_transmit (engaged stage rfl)
  | requested stage free quiet early queued =>
    have engaged := engaged stage rfl
    refine setup.sound_transmit ⟨⟨fun rejects => ?_, engaged.1.2⟩, engaged.2⟩
    have empty := engaged.1.1 rejects
    simp [queued] at empty
  | disconnecting stage =>
    have engaged := engaged stage rfl
    exact setup.sound_transmit ⟨engaged.1, engaged.2⟩

/-- What a move does is one of the cases. -/
theorem move_cases {move : Move} (moved : setup.move world move = after) :
    setup.MoveCase world move after := by
  subst moved
  cases move with
  | step =>
    rw [move]
    cases taken : setup.step world with
    | none => exact .idled
    | some after => exact .stepped (step_cases taken)
  | call request => exact .called request
  | openResult outcome =>
    refine .beside ?_
    simp only [move, World.answerOpen]
    split <;> exact ⟨rfl, rfl, .inl rfl, rfl, rfl⟩
  | wait => exact .beside ⟨rfl, rfl, .inr rfl, rfl, rfl⟩
  | deliver | sendMode | advance | ask => exact .beside ⟨rfl, rfl, .inl rfl, rfl, rfl⟩

/-- What happens beside a sound world leaves it sound. -/
theorem sound_beside (sound : world.Sound) (left : world.Beside after) : after.Sound := by
  obtain ⟨orderly, taken, idle, whole, resting, serving⟩ := sound
  obtain ⟨-, handle, stage, chunk, sameServing⟩ := left
  rcases stage with stage | stage
  · constructor <;> simpa only [handle, stage, chunk, sameServing]
  · constructor <;> simpa [handle, stage, chunk, sameServing]

/-- Every move leads to a sound world. -/
theorem sound_move (sound : world.Sound) (move : Move) : (setup.move world move).Sound := by
  generalize moved : setup.move world move = after
  cases setup.move_cases moved with
  | idled => exact sound
  | stepped follows => exact setup.sound_step sound follows
  | called request =>
    constructor
    · exact sound.orderly.perform request
    · exact fun busy => Handle.perform_active (sound.taken busy) request
    · exact fun rested => (Handle.perform_phase _ _).trans (sound.idle rested)
    · exact sound.whole
    · exact sound.resting
    · exact sound.serving
  | beside left => exact sound_beside sound left

/-- Every world that can be reached is sound. -/
theorem sound_play (handlerState : σ) (opens : List Outcome) (moves : List Move) :
    (setup.play (.initial handlerState opens) moves).Sound := by
  refine setup.play_induction (motive := fun world => world.Sound)
    (fun world move sound => setup.sound_move sound move) ?_ moves
  constructor <;> simp [World.initial, Handle.Orderly, Stage.isBusy]

/-- An attempt is part of a run. -/
theorem Attempt.exists_play {before : World σ ν} (attempt : setup.Attempt before world) :
    ∃ moves, world = setup.play before moves := by
  induction attempt with
  | begun due => exact ⟨[.step], rfl⟩
  | continued earlier underway move ih =>
    obtain ⟨moves, rfl⟩ := ih
    exact ⟨moves ++ [move], by simp⟩

/-- The attempt that is under way in a world goes on during all of some moves. -/
def underwayThrough (world : World σ ν) : List Move → Bool
  | [] => true
  | move :: moves => world.stage.isBusy && underwayThrough (setup.move world move) moves

/-- An attempt goes on as long as it is under way. -/
theorem Attempt.play {before : World σ ν} (attempt : setup.Attempt before world)
    {moves : List Move} (underway : setup.underwayThrough world moves = true) :
    setup.Attempt before (setup.play world moves) := by
  induction moves generalizing world with
  | nil => exact attempt
  | cons move moves ih =>
    simp only [underwayThrough, Bool.and_eq_true] at underway
    exact ih (attempt.continued underway.1 move) underway.2

theorem underwayThrough_concat (world : World σ ν) (moves : List Move) (move : Move) :
    setup.underwayThrough world (moves ++ [move]) =
      (setup.underwayThrough world moves && (setup.play world moves).stage.isBusy) := by
  induction moves generalizing world with
  | nil => simp [underwayThrough]
  | cons first moves ih =>
    rw [List.cons_append, underwayThrough, ih, underwayThrough, play_cons, Bool.and_assoc]

/-- What holds when an attempt has begun, and is kept by its moves, holds after all moves
during which it is under way. -/
theorem underway_induction {motive : List Move → World σ ν → Prop} (due : before.AttemptDue)
    (begun : motive [.step] (setup.move before .step))
    (continued : ∀ {moves world} (move : Move), world = setup.play before moves →
      setup.Attempt before world → world.stage.isBusy = true → motive moves world →
        motive (moves ++ [move]) (setup.move world move))
    {moves : List Move} (underway : setup.underwayThrough (setup.move before .step) moves = true) :
    motive (.step :: moves) (setup.play before (.step :: moves)) := by
  induction moves using List.reverseRecOn with
  | nil => exact begun
  | append_singleton moves move ih =>
    rw [underwayThrough_concat, Bool.and_eq_true] at underway
    obtain ⟨earlier, busy⟩ := underway
    have attempt := Attempt.play setup (.begun due) earlier
    rw [← List.cons_append, play_append, play_cons, play_nil]
    exact continued move rfl attempt busy (ih earlier)

theorem step_of_due (due : world.AttemptDue) :
    setup.step world = some (setup.beginAttempt world.prepared) := by
  unfold step World.prepared
  rcases due with ⟨stage, asked⟩ | ⟨stage, asked⟩
  · simp only [stage, asked]
  · simp only [stage, asked, if_true]

/-- Only a step begins an attempt, and only a due one. -/
theorem due_of_busy {move : Move} (rested : world.stage.isBusy = false)
    (busy : after.stage.isBusy = true) (moved : setup.move world move = after) :
    move = .step ∧ world.AttemptDue := by
  cases setup.move_cases moved with
  | idled | called => exact absurd (rested.symm.trans busy) nofun
  | stepped follows =>
    refine ⟨rfl, ?_⟩
    cases follows with
    | served => simp [Stage.isBusy] at busy
    | begunOnce stage asked => exact .inl ⟨stage, asked⟩
    | begunServing stage asked => exact .inr ⟨stage, asked⟩
    | _ => simp_all [Stage.isBusy]
  | beside left =>
    rw [left.isBusy_eq] at busy
    exact absurd (rested.symm.trans busy) nofun

/-- A step without an attempt begins a due one, or changes neither trace nor handle. -/
theorem StepCase.begin_or_same {setup : Setup σ ν} (follows : setup.StepCase world after)
    (rested : world.stage.isBusy = false) :
    world.AttemptDue ∧ setup.BeginCase world.prepared after ∨
      after.trace = world.trace ∧ after.handle = world.handle ∧ after.stage = .awaitingRequest := by
  cases follows with
  | served => exact .inr ⟨rfl, rfl, rfl⟩
  | begunOnce stage asked =>
    have prepared : world.prepared = { world with next := none, serving := false } := by
      simp only [World.prepared, stage]
    rw [← prepared]
    exact .inl ⟨.inl ⟨stage, asked⟩, setup.beginAttempt_cases _⟩
  | begunServing stage asked =>
    have prepared : world.prepared =
        { world with handle := { world.handle with connectSignal := false } } := by
      simp only [World.prepared, stage]
    rw [← prepared]
    exact .inl ⟨.inr ⟨stage, asked⟩, setup.beginAttempt_cases _⟩
  | _ => simp_all [Stage.isBusy]

/-- Whatever is under way in a run is an attempt that began in it. -/
theorem exists_attempt {start : World σ ν} (rested : start.stage.isBusy = false)
    {moves : List Move} (busy : (setup.play start moves).stage.isBusy = true) :
    ∃ earlier, earlier <+: moves ∧
      setup.Attempt (setup.play start earlier) (setup.play start moves) := by
  induction moves using List.reverseRecOn with
  | nil => exact absurd (rested.symm.trans busy) nofun
  | append_singleton moves move ih =>
    rw [play_append, play_cons, play_nil] at busy ⊢
    cases underway : (setup.play start moves).stage.isBusy with
    | true =>
      obtain ⟨earlier, isPrefix, attempt⟩ := ih underway
      exact ⟨earlier, isPrefix.trans (List.prefix_append _ _), attempt.continued underway move⟩
    | false =>
      obtain ⟨rfl, due⟩ := setup.due_of_busy underway busy rfl
      exact ⟨moves, List.prefix_append _ _, .begun due⟩

/-- What holds when an attempt has begun, and is kept by its steps, by calls and by what
happens beside the task, holds as long as the attempt goes on. -/
theorem Attempt.step_induction {before : World σ ν} {motive : World σ ν → Prop}
    (begun : ∀ {after}, before.AttemptDue → setup.BeginCase before.prepared after → motive after)
    (stepped : ∀ {world after}, world.stage.isBusy = true → motive world →
      setup.StepCase world after → motive after)
    (called : ∀ {world} (request : Call), world.stage.isBusy = true → motive world →
      motive (world.call request).2)
    (beside : ∀ {world after}, world.stage.isBusy = true → motive world →
      world.Beside after → motive after)
    (attempt : setup.Attempt before world) : motive world := by
  induction attempt with
  | begun due =>
    rw [move, step_of_due setup due]
    exact begun due (setup.beginAttempt_cases _)
  | @continued world earlier underway move ih =>
    generalize moved : setup.move world move = after
    cases setup.move_cases moved with
    | idled => exact ih
    | stepped follows => exact stepped underway ih follows
    | called request => exact called request underway ih
    | beside left => exact beside underway ih left

end Setup

/-- A backend that publishes as soon as it is ready, for examples. -/
def Setup.greeter : Setup Nat CallNote where
  sessionId := ⟨"nrf-1", by decide⟩
  config := { broker := { hostname := "broker" } }
  handler := .ofTable fun
    | .ready => [.publish ⟨"hello", [1], .atLeastOnce⟩]
    | _ => []

/-- A world in which one attempt is due. -/
def World.asked : World Nat CallNote := { World.initial 0 [] with next := some .once }

/-- The broker accepts a session, takes a message and hangs up; another message and a
subscription are left in the queue. -/
def Move.shortSession : List Move :=
  .deliver (.data [0x20, 2, 0, 0]) :: .replicate 5 .step ++
    [.call (.publish ⟨"more", [2], .atMostOnce⟩), .call (.subscribe "news"), .step,
      .deliver .close, .step]

theorem Setup.Attempt.greeter_shortSession :
    greeter.Attempt .asked (greeter.play .asked (.step :: Move.shortSession)) := by
  rw [play_cons]
  refine Attempt.play greeter (.begun (.inl ⟨rfl, rfl⟩)) ?_
  decide +kernel

end Uplink
