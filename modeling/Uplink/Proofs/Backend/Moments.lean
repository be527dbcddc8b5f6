import Uplink.Proofs.Backend.Evolution

/-!
# Moments of a run

The handle is met at two kinds of moments: between the moves of a run, by callers, and inside
a step of the task, by the handler of an event that the step tells. `Setup.Tells` says when a
step tells an event, and `Setup.Moment` what has happened until one of these moments, with the
handle there. Every call in the trace of a run was made at such a moment.

`Setup.Keeps.step` takes a step apart into what it tells and what happens silently in between,
so a fact about the phase and the calls of a run needs one case for each event and none for
each case of a step.
-/

namespace Uplink

/-! ## Handles inside a handler -/

/-- Calls do not lengthen the queue in a phase that accepts no requests. -/
theorem Handle.perform_requests_of_rejects {handle : Handle}
    (rejects : handle.phase.acceptsRequests = false) (call : Call) :
    (handle.perform call).2.requests = handle.requests := by
  match performed : handle.perform call with
  | (answer, after) =>
    cases perform_cases performed with
    | queued accepts packet => exact absurd (rejects.symm.trans accepts) nofun
    | refused | connected | disconnected | alone => rfl

namespace Reaction

variable {ν α : Type}

/-- The handle that a reaction has before it, once it has left some entries. -/
inductive Meets : Reaction ν α → Handle → List (Entry ν) → Handle → Prop where
  | now {reaction : Reaction ν α} {handle : Handle} : Meets reaction handle [] handle
  | noted {note : ν} {rest : Reaction ν α} {handle met : Handle} {entries : List (Entry ν)}
      (later : Meets rest handle entries met) :
      Meets (.note note rest) handle (.noted note :: entries) met
  | called {request : Call} {next : Except BackendError Unit → Reaction ν α}
      {handle met : Handle} {entries : List (Entry ν)}
      (later : Meets (next (handle.perform request).1) (handle.perform request).2 entries met) :
      Meets (.call request next) handle
        (.called request (handle.perform request).1 :: entries) met
  | observed {next : Phase → Bool → Reaction ν α} {handle met : Handle}
      {entries : List (Entry ν)}
      (later : Meets (next handle.phase handle.active) handle entries met) :
      Meets (.observe next) handle entries met

variable {reaction : Reaction ν α} {handle met : Handle} {entries : List (Entry ν)}

theorem Meets.phase (meets : reaction.Meets handle entries met) : met.phase = handle.phase := by
  induction meets with
  | now => rfl
  | noted _ ih | observed _ ih => exact ih
  | called _ ih => exact ih.trans (Handle.perform_phase _ _)

/-- In a phase that accepts no requests, a reaction meets one queue. -/
theorem Meets.requests (meets : reaction.Meets handle entries met)
    (rejects : handle.phase.acceptsRequests = false) : met.requests = handle.requests := by
  induction meets with
  | now => rfl
  | noted _ ih | observed _ ih => exact ih rejects
  | @called request _ handle _ _ _ ih =>
    rw [handle.perform_phase] at ih
    exact (ih rejects).trans (Handle.perform_requests_of_rejects rejects request)

/-- A reaction makes every call on the handle that it has before it then. -/
theorem exists_meets_of_called (reaction : Reaction ν α) {handle : Handle}
    {earlier later : List (Entry ν)} {call : Call} {answer : Except BackendError Unit}
    (split : (reaction.run handle).2.2.map ReactionEntry.entry =
      earlier ++ .called call answer :: later) :
    ∃ met, reaction.Meets handle earlier met ∧ (met.perform call).1 = answer := by
  induction reaction generalizing handle earlier with
  | done result => simp [run] at split
  | note note rest ih =>
    cases earlier with
    | nil => cases (List.cons.inj split).1
    | cons first earlier =>
      obtain ⟨rfl, behind⟩ := List.cons.inj split
      obtain ⟨met, meets, answered⟩ := ih behind
      exact ⟨met, .noted meets, answered⟩
  | call request next ih =>
    cases earlier with
    | nil =>
      cases (List.cons.inj split).1
      exact ⟨handle, .now, rfl⟩
    | cons first earlier =>
      obtain ⟨rfl, behind⟩ := List.cons.inj split
      obtain ⟨met, meets, answered⟩ := ih _ behind
      exact ⟨met, .called meets, answered⟩
  | observe next ih =>
    obtain ⟨met, meets, answered⟩ := ih _ _ split
    exact ⟨met, .observed meets, answered⟩

end Reaction

/-! ## What a step tells -/

/-- Nothing was told and nobody called, and the phase stayed. -/
structure World.Hushed {σ ν : Type} (world after : World σ ν) : Prop where
  marks : ∃ marks, world.Grows marks after ∧
    ∀ mark ∈ marks, mark.isCall = false ∧ mark.event? = none
  phase : after.handle.phase = world.handle.phase

theorem World.Hushed.of_same {σ ν : Type} {world after : World σ ν}
    (trace : after.trace = world.trace) (phase : after.handle.phase = world.handle.phase) :
    world.Hushed after :=
  ⟨⟨[], trace, List.forall_mem_nil _⟩, phase⟩

theorem World.Hushed.record {σ ν : Type} {entry : Entry ν} (uncalled : entry.isCall = false)
    (untold : entry.event? = none) (world : World σ ν) : world.Hushed (world.record entry) :=
  ⟨⟨[entry], rfl, by simp [uncalled, untold]⟩, rfl⟩

/-- Giving the slot back tells nothing and calls nobody. -/
theorem Setup.exists_grows_finish {σ ν : Type} (last : World σ ν) :
    ∃ marks, last.Grows marks (finish last) ∧
      ∀ mark ∈ marks, mark.isCall = false ∧ mark.event? = none := by
  rcases finish_cases last with ⟨-, finished⟩ | ⟨-, finished⟩
  · rw [finished]
    exact ⟨[], .refl last, List.forall_mem_nil _⟩
  · rw [finished]
    exact ⟨[.returned], last.grows_record .returned, by simp [Entry.isCall, Entry.event?]⟩

theorem Setup.finish_handle {σ ν : Type} (last : World σ ν) :
    (finish last).handle = last.handle.reset := by
  rcases finish_cases last with ⟨-, finished⟩ | ⟨-, finished⟩ <;> rw [finished]

namespace Setup

variable {σ ν : Type} (setup : Setup σ ν)

/-- The step from `world` comes to `last`, where it enters a phase and tells an event. -/
inductive Tells (world : World σ ν) : World σ ν → Phase → Event → Prop where
  | begun (due : world.AttemptDue) : Tells world world.prepared.claimed .connecting .connecting
  | accepted {client rested : Client} {answer : ConnAck} (stage : world.stage = .draining client)
      (reads : client.next = (.ok (some (.connAck answer)), rested))
      (success : answer.returnCode = 0) (first : world.handle.phase = .connecting) :
      Tells world (world.record (.handled (.connAck answer))) .connected .connected
  /-- The session is ready as soon as its acceptance was told. -/
  | ready {client rested : Client} {answer : ConnAck} (stage : world.stage = .draining client)
      (reads : client.next = (.ok (some (.connAck answer)), rested))
      (success : answer.returnCode = 0) (first : world.handle.phase = .connecting) :
      Tells world (setup.enter .connected .connected (world.record (.handled (.connAck answer))))
        .ready .ready
  /-- A message is delivered in the phase that it finds. -/
  | delivered {client rested : Client} {message : Publish}
      (stage : world.stage = .draining client)
      (reads : client.next = (.ok (some (.publish message)), rested))
      (small : message.payload.length ≤ Limits.payload) :
      Tells world (world.record (.handled (.publish message))) world.handle.phase
        (.dataReceived message.topic message.payload)
  | ended {last : World σ ν} (ends : setup.step world = some (setup.giveUp last) ∨
      setup.step world = some (setup.close last)) : Tells world last .disconnected .disconnected

section

variable {setup} {world after : World σ ν}

theorem hushed_claimed (world : World σ ν) : world.Hushed world.claimed := by
  refine .of_same rfl ?_
  simp only [World.claimed, Handle.claim?]
  split <;> rfl

theorem hushed_prepared (world : World σ ν) : world.Hushed world.prepared := by
  refine .of_same world.prepared_trace ?_
  unfold World.prepared
  split <;> rfl

/-- What is kept by everything that the step from `world` consists of. -/
structure Keeps (setup : Setup σ ν) (world : World σ ν) (motive : World σ ν → Prop) : Prop where
  hushed {last next : World σ ν} (reached : motive last) (silent : last.Hushed next) : motive next
  told {last : World σ ν} {phase : Phase} {event : Event} (reached : motive last)
    (tells : setup.Tells world last phase event) : motive (setup.enter phase event last)
  /-- The slot is given back once the end was told. -/
  finished {last : World σ ν} (reached : motive last)
    (ended : last.handle.phase = .disconnected) : motive (finish last)

namespace Keeps

variable {motive : World σ ν → Prop} {last next : World σ ν}

theorem same (keeps : setup.Keeps world motive) (reached : motive last)
    (trace : next.trace = last.trace) (phase : next.handle.phase = last.handle.phase) :
    motive next :=
  keeps.hushed reached (.of_same trace phase)

theorem record (keeps : setup.Keeps world motive) (reached : motive last) (entry : Entry ν)
    (uncalled : entry.isCall = false) (untold : entry.event? = none) :
    motive (last.record entry) :=
  keeps.hushed reached (.record uncalled untold last)

theorem giveUp (keeps : setup.Keeps world motive) (reached : motive last)
    (steps : setup.step world = some (setup.giveUp last)) : motive (setup.giveUp last) :=
  keeps.finished (keeps.told reached (.ended (.inl steps))) (setup.enter_phase _ _ _)

theorem close (keeps : setup.Keeps world motive) (reached : motive last)
    (steps : setup.step world = some (setup.close last)) : motive (setup.close last) := by
  have ended := keeps.told reached (.ended (.inr steps))
  have aborted := keeps.record ended .aborted rfl rfl
  exact keeps.finished (keeps.same aborted rfl rfl) (setup.enter_phase _ _ _)

theorem transmit (keeps : setup.Keeps world motive) {client : Client} {packet : Outbound}
    {continuation : Continuation} (reached : motive last)
    (steps : setup.step world = some (setup.transmit client packet continuation last)) :
    motive (setup.transmit client packet continuation last) := by
  unfold Setup.transmit at steps ⊢
  split at steps
  · exact keeps.same reached rfl rfl
  · exact keeps.close reached steps

theorem beginSession (keeps : setup.Keeps world motive) (reached : motive last)
    (steps : setup.step world = some (setup.beginSession last)) :
    motive (setup.beginSession last) := by
  unfold Setup.beginSession at steps ⊢
  exact keeps.transmit (keeps.same reached rfl rfl) steps

theorem beginCase (keeps : setup.Keeps world motive) (start : motive world)
    (due : world.AttemptDue) (begins : setup.BeginCase world.prepared after)
    (steps : setup.step world = some after) : motive after := by
  have claimed := keeps.hushed (keeps.hushed start (hushed_prepared world)) (hushed_claimed _)
  have greeted : motive (setup.greet world.prepared) := keeps.told claimed (.begun due)
  have opened := keeps.record greeted (.opened setup.config.broker) rfl rfl
  have dialed : motive (setup.dial (setup.greet world.prepared)) := keeps.same opened rfl rfl
  cases begins with
  | cancelled => exact keeps.giveUp greeted steps
  | unreachable => exact keeps.giveUp dialed steps
  | linked => exact keeps.beginSession dialed steps
  | pending => exact keeps.same dialed rfl rfl

theorem packetCase (keeps : setup.Keeps world motive) (start : motive world)
    {client rested : Client} {packet : Inbound} (stage : world.stage = .draining client)
    (reads : client.next = (.ok (some packet), rested))
    (follows : setup.PacketCase rested (world.record (.handled packet)) packet after)
    (steps : setup.step world = some after) : motive after := by
  have handled : motive (world.record (.handled packet)) := keeps.record start _ rfl rfl
  cases follows with
  | accepted success first =>
    have accepted := keeps.told handled (.accepted stage reads success first)
    have ready := keeps.told accepted (.ready stage reads success first)
    exact keeps.same ready rfl rfl
  | refused => exact keeps.close handled steps
  | acknowledged small =>
    have delivered := keeps.told handled (.delivered stage reads small)
    exact keeps.transmit delivered steps
  | delivered small =>
    have delivered := keeps.told handled (.delivered stage reads small)
    exact keeps.same delivered rfl rfl
  | released => exact keeps.transmit handled steps
  | repeated | dropped | settled | subscribed | pinged => exact keeps.same handled rfl rfl

/-- What holds before a step and is kept by what it consists of holds after it. -/
theorem step (keeps : setup.Keeps world motive) (start : motive world)
    (steps : setup.step world = some after) : motive after := by
  have follows := step_cases steps
  cases busy : world.stage.isBusy with
  | false =>
    obtain ⟨due, begins⟩ | ⟨trace, handle, -⟩ := follows.begin_or_same busy
    · exact keeps.beginCase start due begins steps
    · exact keeps.same start trace (congrArg Handle.phase handle)
  | true =>
    cases follows with
    | served stage | begunOnce stage | begunServing stage =>
      rw [stage] at busy
      cases busy
    | linked => exact keeps.beginSession start steps
    | unreachable => exact keeps.giveUp start steps
    | sendFailed | sentForClose => exact keeps.close (keeps.record start _ rfl rfl) steps
    | sentForTurn | sentForDrain => exact keeps.same (keeps.record start _ rfl rfl) rfl rfl
    | unreadable | crowded => exact keeps.close start steps
    | hungUp | linkFailed => exact keeps.close (keeps.same start rfl rfl) steps
    | drained | idled => exact keeps.same start rfl rfl
    | @received _ _ _ bytes =>
      have received := keeps.record start (.received bytes) rfl rfl
      exact keeps.same received rfl rfl
    | pinging => exact keeps.transmit start steps
    | requested | disconnecting => exact keeps.transmit (keeps.same start rfl rfl) steps
    | handled stage reads packetFollows =>
      exact keeps.packetCase start stage reads packetFollows steps

/-- What callers keep as well holds throughout a run. -/
theorem play {start : World σ ν} (begun : motive start)
    (keeps : ∀ moves, setup.Keeps (setup.play start moves) motive)
    (called : ∀ moves request, motive (setup.play start moves) →
      motive ((setup.play start moves).call request).2)
    (moves : List Move) : motive (setup.play start moves) := by
  induction moves using List.reverseRecOn with
  | nil => exact begun
  | append_singleton moves move ih =>
    rw [play_append, play_cons, play_nil]
    cases move with
    | step =>
      rw [Setup.move]
      cases taken : setup.step (setup.play start moves) with
      | none => exact ih
      | some after => exact (keeps moves).step ih taken
    | call request => exact called moves request ih
    | deliver | sendMode | openResult | advance | ask | wait =>
      generalize moved : setup.move (setup.play start moves) _ = after
      cases setup.move_cases moved with
      | beside left => exact (keeps moves).same ih left.trace (congrArg Handle.phase left.handle)

end Keeps

end

/-! ## The moments of a run -/

/-- A moment at which the handle can be called: what has happened until then, and the
handle. -/
inductive Moment (start : World σ ν) : List (Entry ν) → Handle → Prop where
  /-- Between two moves, by whoever has it. -/
  | between (moves : List Move) :
      Moment start (setup.play start moves).history (setup.play start moves).handle
  /-- While an event is told, by the handler. -/
  | within {moves : List Move} {last : World σ ν} {phase : Phase} {event : Event}
      {entries : List (Entry ν)} {met : Handle}
      (tells : setup.Tells (setup.play start moves) last phase event)
      (meets : (setup.handler.react event last.handlerState).Meets (last.inPhase phase).handle
        entries met) :
      Moment start (last.history ++ .raised event phase :: entries) met

/-- Every call was made at a moment of the run, and answered as the handle answers then. -/
def Attested (start : World σ ν) (history : List (Entry ν)) : Prop :=
  ∀ earlier call answer later, history = earlier ++ .called call answer :: later →
    ∃ handle, setup.Moment start earlier handle ∧ (handle.perform call).1 = answer

variable {setup} in
/-- New calls have to be looked at, old ones not. -/
theorem Attested.append {start : World σ ν} {history entries : List (Entry ν)}
    (attested : setup.Attested start history)
    (added : ∀ earlier call answer later, entries = earlier ++ .called call answer :: later →
      ∃ handle, setup.Moment start (history ++ earlier) handle ∧
        (handle.perform call).1 = answer) : setup.Attested start (history ++ entries) := by
  intro earlier call answer later split
  rcases List.append_eq_append_iff.mp split with ⟨rest, rfl, isAdded⟩ | ⟨rest, isOld, isNext⟩
  · exact added _ _ _ _ isAdded
  · cases rest with
    | nil =>
      rw [List.append_nil] at isOld
      rw [← isOld, ← List.append_nil history]
      exact added [] call answer later isNext.symm
    | cons first rest =>
      obtain ⟨rfl, -⟩ := List.cons.inj isNext
      exact attested _ _ _ _ isOld

variable {setup} in
theorem Attested.of_uncalled {start : World σ ν} {history entries : List (Entry ν)}
    (attested : setup.Attested start history)
    (uncalled : ∀ entry ∈ entries, entry.isCall = false) :
    setup.Attested start (history ++ entries) := by
  refine attested.append fun earlier call answer later split => ?_
  have isEntry : .called call answer ∈ entries := by simp [split]
  exact absurd (uncalled _ isEntry) nofun

/-- What a step consists of is attested when the step is part of the run. -/
theorem keeps_attested (start : World σ ν) (moves : List Move) :
    setup.Keeps (setup.play start moves) fun world => setup.Attested start world.history where
  hushed reached silent := by
    obtain ⟨marks, grows, quiet⟩ := silent.marks
    rw [grows.history_eq]
    exact reached.of_uncalled fun mark isMark => (quiet mark isMark).1
  told {last phase event} reached tells := by
    rw [(setup.grows_enter phase event last).history_eq]
    refine reached.append fun earlier call answer later split => ?_
    cases earlier with
    | nil => cases (List.cons.inj split).1
    | cons first earlier =>
      obtain ⟨rfl, remarks⟩ := List.cons.inj split
      obtain ⟨met, meets, answered⟩ := Reaction.exists_meets_of_called _ remarks
      exact ⟨met, .within tells meets, answered⟩
  finished {last} reached ended := by
    obtain ⟨marks, grows, quiet⟩ := exists_grows_finish last
    rw [grows.history_eq]
    exact reached.of_uncalled fun mark isMark => (quiet mark isMark).1

/-- Every call that a run records was made at one of its moments. -/
theorem attested_play {start : World σ ν} (fresh : start.trace = []) (moves : List Move) :
    setup.Attested start (setup.play start moves).history := by
  refine Keeps.play (motive := fun world => setup.Attested start world.history) ?_
    (setup.keeps_attested start) ?_ moves
  · intro earlier call answer later split
    simp [World.history, fresh] at split
  · intro moves request reached
    rw [(World.grows_call _ request).history_eq]
    refine reached.append fun earlier call answer later split => ?_
    cases earlier with
    | nil =>
      obtain ⟨rfl, rfl⟩ := Entry.called.inj (List.cons.inj split).1
      rw [List.append_nil]
      exact ⟨_, .between moves, rfl⟩
    | cons first earlier => simp at split

end Setup

end Uplink
