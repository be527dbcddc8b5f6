import Uplink.Proofs.Backend.Attempts

/-!
# How the handle evolves

Callers, handlers and the task take turns in changing the handle. `Handle.Evolves` lists
the changes there are, with what is recorded meanwhile, and `Setup.move_evolves` says that
every move consists of them. What all changes keep therefore holds of every handle that a
run can reach, and what a change leaves behind is found in the trace.
-/

namespace Uplink

/-- Whether a call was recorded. -/
def Entry.isCall {ν : Type} : Entry ν → Bool
  | called _ _ => true
  | raised _ _ | opened _ | received _ | handled _ | handed _ _ _ | aborted | returned
  | noted _ => false

namespace Handle

variable {ν : Type}

/-- The handle after the slot was taken. -/
def taken (handle : Handle) : Handle :=
  { handle with active := true, disconnectRequested := false, disconnectSignal := false }

/-- Nobody gets a slot that is taken. -/
theorem perform_connect {handle : Handle} (active : handle.active = true) :
    handle.perform .connect = (.error .inProgress, handle) := by
  simp [perform, attempt, connect, claim?, active]

theorem perform_connect_of_free {handle : Handle} (free : handle.active = false) :
    handle.perform .connect = (.ok (), { handle.taken with connectSignal := true }) := by
  simp [perform, attempt, connect, claim?, free, taken]

theorem perform_connect_eq_ok_iff {handle : Handle} :
    (handle.perform .connect).1 = .ok () ↔ handle.active = false := by
  cases active : handle.active with
  | true => simp [perform_connect active]
  | false => simp [perform_connect_of_free active]

/-- A refusal says that the slot is taken, and changes nothing. -/
theorem perform_connect_of_refused {handle : Handle}
    (refused : (handle.perform .connect).1 ≠ .ok ()) :
    handle.perform .connect = (.error .inProgress, handle) := by
  rw [Ne, perform_connect_eq_ok_iff, Bool.not_eq_false] at refused
  exact perform_connect refused

/-- The changes that lead from one state of the handle to another, with what is recorded. -/
inductive Evolves (start : Handle) : List (Entry ν) → Handle → Prop where
  | refl : Evolves start [] start
  | called {entries : List (Entry ν)} {handle : Handle}
      (earlier : Evolves start entries handle) (call : Call) :
      Evolves start (entries ++ [.called call (handle.perform call).1]) (handle.perform call).2
  | recorded {entries : List (Entry ν)} {handle : Handle} {entry : Entry ν}
      (earlier : Evolves start entries handle) (silent : entry.isCall = false) :
      Evolves start (entries ++ [entry]) handle
  /-- The task takes the slot for an attempt that nobody asked for. -/
  | claimed {entries : List (Entry ν)} {handle : Handle}
      (earlier : Evolves start entries handle) (free : handle.active = false) :
      Evolves start entries handle.taken
  /-- The task picks up a connect request. -/
  | picked {entries : List (Entry ν)} {handle : Handle}
      (earlier : Evolves start entries handle) :
      Evolves start entries { handle with connectSignal := false }
  | entered {entries : List (Entry ν)} {handle : Handle}
      (earlier : Evolves start entries handle) (phase : Phase) :
      Evolves start entries { handle with phase }
  | dequeued {entries : List (Entry ν)} {handle : Handle}
      (earlier : Evolves start entries handle) (requests : List Request) :
      Evolves start entries { handle with requests }
  /-- The session picks up a disconnect request. -/
  | heeded {entries : List (Entry ν)} {handle : Handle}
      (earlier : Evolves start entries handle) :
      Evolves start entries { handle with disconnectSignal := false }
  | reset {entries : List (Entry ν)} {handle : Handle}
      (earlier : Evolves start entries handle) : Evolves start entries handle.reset

theorem Evolves.trans {start handle after : Handle} {entries more : List (Entry ν)}
    (first : start.Evolves entries handle) (second : handle.Evolves more after) :
    start.Evolves (entries ++ more) after := by
  induction second with
  | refl =>
    rw [List.append_nil]
    exact first
  | called _ call ih =>
    rw [← List.append_assoc]
    exact ih.called call
  | recorded _ silent ih =>
    rw [← List.append_assoc]
    exact ih.recorded silent
  | claimed _ free ih => exact ih.claimed free
  | picked _ ih => exact ih.picked
  | entered _ phase ih => exact ih.entered phase
  | dequeued _ requests ih => exact ih.dequeued requests
  | heeded _ ih => exact ih.heeded
  | reset _ ih => exact ih.reset

/-- A handler changes the handle by its calls only. -/
theorem evolves_run {α : Type} (reaction : Reaction ν α) (handle : Handle) :
    handle.Evolves ((reaction.run handle).2.2.map ReactionEntry.entry)
      (reaction.run handle).2.1 := by
  induction reaction generalizing handle with
  | done result => exact .refl
  | note entry rest ih => exact (Evolves.refl.recorded rfl).trans (ih handle)
  | call request next ih => exact (Evolves.refl.called request).trans (ih _ _)
  | observe next ih => exact ih _ _ handle

/-- A disconnect request that the session has not picked up is remembered. -/
def Mindful (handle : Handle) : Prop :=
  handle.disconnectSignal = true → handle.disconnectRequested = true

/-- Every change keeps disconnect requests remembered. -/
theorem Evolves.mindful {start handle : Handle} {entries : List (Entry ν)}
    (evolves : start.Evolves entries handle) (mindful : start.Mindful) : handle.Mindful := by
  induction evolves with
  | refl => exact mindful
  | @called entries handle earlier call ih =>
    match performed : handle.perform call with
    | (answer, after) =>
      cases perform_cases performed with
      | refused | alone | queued => exact ih
      | connected => exact nofun
      | disconnected => exact fun _ => rfl
  | claimed => exact nofun
  | heeded => exact nofun
  | recorded _ _ ih | picked _ ih | entered _ _ ih | dequeued _ _ ih | reset _ ih => exact ih

/-- A new disconnect request comes from a call. -/
theorem Evolves.asked {start handle : Handle} {entries : List (Entry ν)}
    (evolves : start.Evolves entries handle) (signalled : handle.disconnectSignal = true) :
    start.disconnectSignal = true ∨ .called .disconnect (.ok ()) ∈ entries := by
  induction evolves with
  | refl => exact .inl signalled
  | @called entries handle earlier call ih =>
    rw [List.mem_append]
    match performed : handle.perform call with
    | (answer, after) =>
      rw [performed] at signalled
      cases perform_cases performed with
      | refused | alone | queued => exact (ih signalled).imp_right .inl
      | connected => cases signalled
      | disconnected => exact .inr (.inr List.mem_cons_self)
  | recorded earlier silent ih =>
    rw [List.mem_append]
    exact (ih signalled).imp_right .inl
  | claimed => cases signalled
  | heeded => cases signalled
  | picked _ ih | entered _ _ ih | dequeued _ _ ih | reset _ ih => exact ih signalled

/-- A new connect request comes from a call that was accepted. -/
theorem Evolves.connected {start handle : Handle} {entries : List (Entry ν)}
    (evolves : start.Evolves entries handle) (signalled : handle.connectSignal = true) :
    start.connectSignal = true ∨ .called .connect (.ok ()) ∈ entries := by
  induction evolves with
  | refl => exact .inl signalled
  | @called entries handle earlier call ih =>
    rw [List.mem_append]
    match performed : handle.perform call with
    | (answer, after) =>
      rw [performed] at signalled
      cases perform_cases performed with
      | refused | disconnected | alone | queued => exact (ih signalled).imp_right .inl
      | connected => exact .inr (.inr List.mem_cons_self)
  | recorded earlier silent ih =>
    rw [List.mem_append]
    exact (ih signalled).imp_right .inl
  | picked => cases signalled
  | reset => cases signalled
  | claimed _ _ ih | entered _ _ ih | dequeued _ _ ih | heeded _ ih => exact ih signalled

end Handle

namespace World

variable {σ ν : Type} {before world after : World σ ν}

/-- There is one account of what was recorded. -/
theorem Grows.unique {entries more : List (Entry ν)} (first : before.Grows entries after)
    (second : before.Grows more after) : entries = more :=
  first.since_eq.symm.trans second.since_eq

/-- How the handle of one world becomes that of another. -/
def Evolves (world after : World σ ν) : Prop :=
  ∃ entries, world.Grows entries after ∧ world.handle.Evolves entries after.handle

theorem Evolves.refl (world : World σ ν) : world.Evolves world := ⟨[], rfl, .refl⟩

theorem Evolves.trans (first : before.Evolves world) (second : world.Evolves after) :
    before.Evolves after := by
  obtain ⟨entries, grows, evolves⟩ := first
  obtain ⟨more, growsMore, evolvesMore⟩ := second
  exact ⟨entries ++ more, grows.append growsMore, evolves.trans evolvesMore⟩

/-- Only the trace and the handle count. -/
theorem Evolves.of_same (trace : after.trace = world.trace) (handle : after.handle = world.handle) :
    world.Evolves after := by
  refine ⟨[], trace, ?_⟩
  rw [handle]
  exact .refl

/-- What was recorded since is what makes up for the difference. -/
theorem Evolves.grows (evolves : world.Evolves after) : world.Grows (after.since world) after := by
  obtain ⟨entries, grows, -⟩ := evolves
  rwa [grows.since_eq]

theorem evolves_record {entry : Entry ν} (world : World σ ν) (silent : entry.isCall = false) :
    world.Evolves (world.record entry) :=
  ⟨[entry], world.grows_record entry, Handle.Evolves.refl.recorded silent⟩

theorem evolves_call (world : World σ ν) (request : Call) :
    world.Evolves (world.call request).2 :=
  ⟨_, world.grows_call request, Handle.Evolves.refl.called request⟩

theorem evolves_prepared (world : World σ ν) : world.Evolves world.prepared := by
  unfold prepared
  split
  · exact .of_same rfl rfl
  · exact ⟨[], rfl, Handle.Evolves.refl.picked⟩

/-- The slot is taken unless it is taken already. -/
theorem evolves_claimed (world : World σ ν) : world.Evolves world.claimed := by
  unfold claimed Handle.claim?
  split
  · exact .of_same rfl rfl
  · next free => exact ⟨[], rfl, Handle.Evolves.refl.claimed (by simpa using free)⟩

end World

/-! ## The clock and what the task was asked for -/

/-- The clock, and what the task was asked to do last and has not begun. Handlers and the
end of an attempt leave both alone. -/
def World.outset {σ ν : Type} (world : World σ ν) : Micros × Option Job := (world.now, world.next)

namespace Setup

open World

variable {σ ν : Type} (setup : Setup σ ν) {world after : World σ ν}

section

variable (world : World σ ν)

@[simp] theorem raise_outset (event : Event) : (setup.raise event world).outset = world.outset := by
  rw [raise_eq]
  rfl

@[simp] theorem enter_outset (phase : Phase) (event : Event) :
    (setup.enter phase event world).outset = world.outset :=
  setup.raise_outset (world.inPhase phase) event

@[simp] theorem finish_outset : (finish world).outset = world.outset := by
  rcases finish_cases world with ⟨-, finished⟩ | ⟨-, finished⟩ <;> rw [finished] <;> rfl

@[simp] theorem giveUp_outset : (setup.giveUp world).outset = world.outset := by
  simp [giveUp]

@[simp] theorem close_outset : (setup.close world).outset = world.outset :=
  (finish_outset _).trans (setup.enter_outset world .disconnected .disconnected)

@[simp] theorem transmit_outset (client : Client) (packet : Outbound) (next : Continuation) :
    (setup.transmit client packet next world).outset = world.outset := by
  unfold transmit
  split
  · rfl
  · exact setup.close_outset world

@[simp] theorem beginSession_outset : (setup.beginSession world).outset = world.outset := by
  unfold beginSession
  exact setup.transmit_outset { world with link := world.link.forget } _ _ _

@[simp] theorem greet_outset : (setup.greet world).outset = world.outset :=
  setup.enter_outset world.claimed .connecting .connecting

@[simp] theorem beginAttempt_outset : (setup.beginAttempt world).outset = world.outset := by
  have begins := setup.beginAttempt_cases world
  generalize setup.beginAttempt world = after at begins ⊢
  have dials : (setup.dial (setup.greet world)).outset = world.outset := setup.greet_outset world
  cases begins with
  | cancelled => simp
  | unreachable | linked => simpa using dials
  | pending => exact dials

end

/-- No time passes in a step, and what the task was asked to do it may begin. -/
theorem StepCase.outset_cases {setup : Setup σ ν} (follows : setup.StepCase world after) :
    after.outset = world.outset ∨ after.outset = (world.now, none) := by
  cases follows with
  | served => exact .inr rfl
  | begunOnce => exact .inr (setup.beginAttempt_outset _)
  | begunServing => exact .inl (setup.beginAttempt_outset _)
  | linked => exact .inl (setup.beginSession_outset world)
  | unreachable => exact .inl (setup.giveUp_outset world)
  | sendFailed | sentForClose | unreadable | crowded | hungUp | linkFailed =>
    exact .inl (setup.close_outset _)
  | sentForTurn | sentForDrain | drained | received | idled => exact .inl rfl
  | pinging | requested | disconnecting => exact .inl (setup.transmit_outset _ _ _ _)
  | @handled client rested packet after stage reads packetFollows =>
    left
    cases packetFollows with
    | accepted =>
      exact (setup.enter_outset (setup.enter .connected .connected _) .ready .ready).trans
        (setup.enter_outset (world.record (.handled _)) .connected .connected)
    | refused => exact setup.close_outset _
    | @acknowledged message =>
      exact (setup.transmit_outset _ _ _ _).trans
        (setup.raise_outset _ (.dataReceived message.topic message.payload))
    | @delivered message =>
      exact setup.raise_outset _ (.dataReceived message.topic message.payload)
    | released => exact setup.transmit_outset _ _ _ _
    | repeated | dropped | settled | subscribed | pinged => rfl

/-- No time passes in a step. -/
theorem StepCase.now_eq {setup : Setup σ ν} (follows : setup.StepCase world after) :
    after.now = world.now := by
  rcases follows.outset_cases with same | begun
  · exact congrArg Prod.fst same
  · exact congrArg Prod.fst begun

/-- Time does not run backwards. -/
theorem now_le_move (world : World σ ν) (move : Move) : world.now ≤ (setup.move world move).now := by
  cases move with
  | step =>
    rw [Setup.move]
    cases taken : setup.step world with
    | none => exact Nat.le_refl _
    | some after => exact Nat.le_of_eq (step_cases taken).now_eq.symm
  | advance time => exact Nat.le_add_right _ _
  | openResult outcome =>
    simp only [Setup.move, World.answerOpen]
    split <;> exact Nat.le_refl _
  | deliver | sendMode | call | ask | wait => exact Nat.le_refl _

/-- Only who asks the task for a single attempt has it do so. -/
theorem move_next {move : Move} (patient : world.next ≠ some .once) (other : move ≠ .ask .once) :
    (setup.move world move).next ≠ some .once := by
  cases move with
  | ask job =>
    intro asked
    cases asked
    exact other rfl
  | step =>
    rw [Setup.move]
    cases taken : setup.step world with
    | none => exact patient
    | some after =>
      rw [Option.getD_some]
      rcases (step_cases taken).outset_cases with same | begun
      · have next : after.next = world.next := congrArg Prod.snd same
        rwa [next]
      · have next : after.next = none := congrArg Prod.snd begun
        rw [next]
        intro asked
        cases asked
  | openResult outcome =>
    rw [Setup.move, World.answerOpen]
    split <;> exact patient
  | deliver | sendMode | advance | call | wait => exact patient

/-! ## Every move -/

theorem evolves_raise (event : Event) (world : World σ ν) :
    world.Evolves (setup.raise event world) := by
  refine ⟨_, setup.grows_raise event world, ?_⟩
  rw [raise_eq]
  exact (Handle.Evolves.refl.recorded rfl).trans (Handle.evolves_run _ _)

theorem evolves_enter (phase : Phase) (event : Event) (world : World σ ν) :
    world.Evolves (setup.enter phase event world) := by
  have enters : world.Evolves (world.inPhase phase) := ⟨[], rfl, Handle.Evolves.refl.entered phase⟩
  exact enters.trans (setup.evolves_raise event _)

theorem evolves_finish (world : World σ ν) : world.Evolves (finish world) := by
  have resets : world.Evolves { world with handle := world.handle.reset } :=
    ⟨[], rfl, Handle.Evolves.refl.reset⟩
  refine resets.trans ?_
  rcases finish_cases world with ⟨-, finished⟩ | ⟨-, finished⟩
  · rw [finished]
    exact .of_same rfl rfl
  · rw [finished]
    exact (evolves_record _ (rfl : Entry.returned.isCall = false)).trans (.of_same rfl rfl)

theorem evolves_giveUp (world : World σ ν) : world.Evolves (setup.giveUp world) :=
  (setup.evolves_enter .disconnected .disconnected world).trans (evolves_finish _)

theorem evolves_close (world : World σ ν) : world.Evolves (setup.close world) := by
  let told : World σ ν := setup.enter .disconnected .disconnected world
  have aborts : told.Evolves (told.record .aborted) := told.evolves_record rfl
  have forgets : (told.record .aborted).Evolves
      { told.record .aborted with link := told.link.forget } := .of_same rfl rfl
  exact (((setup.evolves_enter _ _ world).trans aborts).trans forgets).trans (evolves_finish _)

theorem evolves_transmit (client : Client) (packet : Outbound) (next : Continuation)
    (world : World σ ν) : world.Evolves (setup.transmit client packet next world) := by
  unfold transmit
  split
  · exact .of_same rfl rfl
  · exact setup.evolves_close world

theorem evolves_beginSession (world : World σ ν) : world.Evolves (setup.beginSession world) := by
  unfold beginSession
  have forgets : world.Evolves { world with link := world.link.forget } := .of_same rfl rfl
  exact forgets.trans (setup.evolves_transmit _ _ _ _)

theorem evolves_dial (world : World σ ν) : world.Evolves (setup.dial world) :=
  (world.evolves_record (rfl : (Entry.opened setup.config.broker).isCall = false)).trans
    (.of_same rfl rfl)

theorem evolves_greet (world : World σ ν) : world.Evolves (setup.greet world) :=
  world.evolves_claimed.trans (setup.evolves_enter .connecting .connecting world.claimed)

theorem evolves_beginCase (begins : setup.BeginCase world after) :
    (setup.greet world).Evolves after := by
  have dials := setup.evolves_dial (setup.greet world)
  cases begins with
  | cancelled => exact setup.evolves_giveUp _
  | unreachable => exact dials.trans (setup.evolves_giveUp _)
  | linked => exact dials.trans (setup.evolves_beginSession _)
  | pending => exact dials.trans (.of_same rfl rfl)

theorem evolves_packetCase {client : Client} {packet : Inbound}
    (follows : setup.PacketCase client world packet after) : world.Evolves after := by
  cases follows with
  | accepted =>
    have tells := (setup.evolves_enter .connected .connected world).trans
      (setup.evolves_enter .ready .ready _)
    exact tells.trans (.of_same rfl rfl)
  | refused => exact setup.evolves_close world
  | acknowledged => exact (setup.evolves_raise _ world).trans (setup.evolves_transmit _ _ _ _)
  | delivered => exact (setup.evolves_raise _ world).trans (.of_same rfl rfl)
  | released => exact setup.evolves_transmit _ _ _ world
  | repeated | dropped | settled | subscribed | pinged => exact .of_same rfl rfl

theorem evolves_stepCase (follows : setup.StepCase world after) : world.Evolves after := by
  cases follows with
  | served => exact .of_same rfl rfl
  | begunOnce stage =>
    have asked : world.Evolves { world with next := none, serving := false } := .of_same rfl rfl
    exact (asked.trans (setup.evolves_greet _)).trans
      (setup.evolves_beginCase (setup.beginAttempt_cases _))
  | begunServing stage =>
    have picks : world.Evolves
        { world with handle := { world.handle with connectSignal := false } } :=
      ⟨[], rfl, Handle.Evolves.refl.picked⟩
    exact (picks.trans (setup.evolves_greet _)).trans
      (setup.evolves_beginCase (setup.beginAttempt_cases _))
  | linked => exact setup.evolves_beginSession world
  | unreachable => exact setup.evolves_giveUp world
  | sendFailed | sentForClose =>
    exact (world.evolves_record rfl).trans (setup.evolves_close _)
  | sentForTurn | sentForDrain => exact (world.evolves_record rfl).trans (.of_same rfl rfl)
  | unreadable | crowded => exact setup.evolves_close world
  | hungUp | linkFailed => exact (Evolves.of_same rfl rfl).trans (setup.evolves_close _)
  | drained | idled => exact .of_same rfl rfl
  | handled stage reads packetFollows =>
    exact (world.evolves_record rfl).trans (setup.evolves_packetCase packetFollows)
  | received => exact (evolves_record _ rfl).trans (.of_same rfl rfl)
  | pinging => exact setup.evolves_transmit _ _ _ world
  | @requested client deadline armed request requests =>
    have dequeues : world.Evolves { world with handle := { world.handle with requests } } :=
      ⟨[], rfl, Handle.Evolves.refl.dequeued requests⟩
    exact dequeues.trans (setup.evolves_transmit _ _ _ _)
  | disconnecting =>
    have heeds : world.Evolves
        { world with handle := { world.handle with disconnectSignal := false } } :=
      ⟨[], rfl, Handle.Evolves.refl.heeded⟩
    exact heeds.trans (setup.evolves_transmit _ _ _ _)

/-- Every move changes the handle in the ways there are. -/
theorem move_evolves (world : World σ ν) (move : Move) : world.Evolves (setup.move world move) := by
  generalize moved : setup.move world move = after
  cases setup.move_cases moved with
  | idled => exact .refl world
  | stepped follows => exact setup.evolves_stepCase follows
  | called request => exact world.evolves_call request
  | beside left => exact .of_same left.trace left.handle

/-- So does every run. -/
theorem play_evolves (world : World σ ν) (moves : List Move) :
    world.Evolves (setup.play world moves) := by
  induction moves generalizing world with
  | nil => exact .refl world
  | cons move moves ih => exact (setup.move_evolves world move).trans (ih _)

/-- What is recorded in a further move of an attempt comes behind the rest. -/
theorem Attempt.since_grows {before : World σ ν} (attempt : setup.Attempt before world)
    {more : List (Entry ν)} (grows : world.Grows more after) :
    after.since before = world.since before ++ more := by
  obtain ⟨moves, rfl⟩ := attempt.exists_play
  exact ((setup.play_evolves before moves).grows.append grows).since_eq

/-- In every world that can be reached, disconnect requests are remembered. -/
theorem mindful_play (handlerState : σ) (opens : List Outcome) (moves : List Move) :
    (setup.play (.initial handlerState opens) moves).handle.Mindful := by
  obtain ⟨entries, -, evolves⟩ := setup.play_evolves (.initial handlerState opens) moves
  refine evolves.mindful ?_
  intro signalled
  cases signalled

end Setup

end Uplink
