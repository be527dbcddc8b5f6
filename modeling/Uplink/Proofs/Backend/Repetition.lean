import Mathlib.Data.List.Infix
import Uplink.Proofs.Backend.Isolation
import Uplink.Proofs.Backend.Recall

/-!
# Asking for the end again

Whoever asks for the end of a session again gets an answer, and nothing else comes of it.
A request that is still signalled is not signalled twice, and behind the leave of a session
nothing reads the signal until the slot is taken anew. `World.Echoes` is what every move keeps
for that, and `Setup.Obliging` is what the end of sessions comes to as a whole.
-/

namespace Uplink

namespace Handle

variable {handle : Handle}

theorem perform_disconnect (active : handle.active = true) :
    handle.perform .disconnect = (.ok (), handle.marked true true) := by
  simp [perform, attempt, disconnect, active, marked]

theorem perform_disconnect_of_free (free : handle.active = false) :
    handle.perform .disconnect = (.ok (), handle) := by
  simp [perform, attempt, disconnect, free]

/-- A handle that has both marks of a disconnect request does not change by another. -/
theorem perform_disconnect_of_marked (requested : handle.disconnectRequested = true)
    (signalled : handle.disconnectSignal = true) :
    handle.perform .disconnect = (.ok (), handle) := by
  cases active : handle.active with
  | false => exact perform_disconnect_of_free active
  | true =>
    rw [perform_disconnect active, marked]
    cases handle
    simp_all

/-- No call depends on the marks of a disconnect request, and only the marks depend on them
behind it. -/
theorem exists_perform_marked (handle : Handle) (requested signalled : Bool) (call : Call) :
    ∃ nowRequested nowSignalled, (handle.marked requested signalled).perform call =
      ((handle.perform call).1, (handle.perform call).2.marked nowRequested nowSignalled) := by
  have sameActive : (handle.marked requested signalled).active = handle.active := rfl
  cases active : handle.active with
  | false =>
    rcases perform_marked requested signalled active call with forgotten | ⟨carried, -⟩
    · exact ⟨_, _, forgotten⟩
    · exact ⟨_, _, carried⟩
  | true =>
    rw [active] at sameActive
    by_cases isConnect : call = .connect
    · subst isConnect
      rw [perform_connect active, perform_connect sameActive]
      exact ⟨_, _, rfl⟩
    · by_cases isDisconnect : call = .disconnect
      · subst isDisconnect
        rw [perform_disconnect active, perform_disconnect sameActive]
        exact ⟨true, true, rfl⟩
      · refine ⟨requested, signalled, ?_⟩
        simp only [perform, attempt_marked requested signalled isConnect fun same =>
          absurd same isDisconnect]
        cases handle.attempt call <;> rfl

end Handle

namespace Reaction

variable {ν α : Type}

/-- Nor does a reaction. -/
theorem exists_run_marked (reaction : Reaction ν α) (handle : Handle)
    (requested signalled : Bool) : ∃ nowRequested nowSignalled,
      reaction.run (handle.marked requested signalled) =
        ((reaction.run handle).1, (reaction.run handle).2.1.marked nowRequested nowSignalled,
          (reaction.run handle).2.2) := by
  induction reaction generalizing handle requested signalled with
  | done result => exact ⟨requested, signalled, rfl⟩
  | note entry rest ih =>
    obtain ⟨nowRequested, nowSignalled, same⟩ := ih handle requested signalled
    exact ⟨nowRequested, nowSignalled, by simp only [run, same]⟩
  | call request next ih =>
    obtain ⟨midRequested, midSignalled, performed⟩ :=
      handle.exists_perform_marked requested signalled request
    obtain ⟨nowRequested, nowSignalled, same⟩ :=
      ih (handle.perform request).1 (handle.perform request).2 midRequested midSignalled
    exact ⟨nowRequested, nowSignalled, by simp only [run, performed, same]⟩
  | observe next ih =>
    obtain ⟨nowRequested, nowSignalled, same⟩ :=
      ih handle.phase handle.active handle requested signalled
    exact ⟨nowRequested, nowSignalled, same⟩

/-- The reaction of a handler that asks for the end again before it goes on. -/
def again (rest : Reaction ν α) : Reaction ν α := .call .disconnect fun _ => rest

/-- A handler that asks again does all else as before, and at most leaves other marks. -/
theorem exists_run_again (rest : Reaction ν α) (handle : Handle) :
    ∃ requested signalled, rest.again.run handle =
      ((rest.run handle).1, (rest.run handle).2.1.marked requested signalled,
        .called .disconnect (.ok ()) :: (rest.run handle).2.2) := by
  cases active : handle.active with
  | false =>
    refine ⟨(rest.run handle).2.1.disconnectRequested, (rest.run handle).2.1.disconnectSignal, ?_⟩
    rw [again, run, Handle.perform_disconnect_of_free active]
    rfl
  | true =>
    obtain ⟨requested, signalled, same⟩ := rest.exists_run_marked handle true true
    refine ⟨requested, signalled, ?_⟩
    simp only [again, run, Handle.perform_disconnect active, same]

/-- Where the end was asked for and is still signalled, not even the marks change. -/
theorem run_again_of_marked (rest : Reaction ν α) {handle : Handle}
    (marked : handle.active = true →
      handle.disconnectRequested = true ∧ handle.disconnectSignal = true) :
    (rest.again.run handle).2.1 = (rest.run handle).2.1 := by
  have performed : handle.perform .disconnect = (.ok (), handle) := by
    cases active : handle.active with
    | false => exact Handle.perform_disconnect_of_free active
    | true =>
      obtain ⟨requested, signalled⟩ := marked active
      exact Handle.perform_disconnect_of_marked requested signalled
  simp only [again, run, performed]

end Reaction

namespace World

variable {σ ν : Type} {past : List (Entry ν)} {world old new : World σ ν}

/-- Another disconnect request makes no difference: there is nothing to end, or the end was
asked for, and the session has still to hear of it or takes its leave. -/
def Ending (world : World σ ν) : Prop :=
  world.handle.active = true →
    (world.handle.disconnectRequested = true ∧ world.handle.disconnectSignal = true) ∨
      world.stage.isParting = true

/-- Marks of a disconnect request that nothing reads, or that the world has. -/
def Unread (world : World σ ν) (requested signalled : Bool) : Prop :=
  (requested = world.handle.disconnectRequested ∧ signalled = world.handle.disconnectSignal) ∨
    (world.handle.active = false ∧ world.stage.isBusy = false) ∨ world.stage.isParting = true

/-- An old world goes on as a new one does: it has a past, and it may have other marks of a
disconnect request where nothing reads them. -/
def Echoes (past : List (Entry ν)) (old new : World σ ν) : Prop :=
  ∃ requested signalled, new.Unread requested signalled ∧
    old = (new.marked requested signalled).onto past

theorem Echoes.of_resumes (resumes : Resumes past old new) : Echoes past old new := by
  cases resumes with
  | same => exact ⟨_, _, .inl ⟨rfl, rfl⟩, rfl⟩
  | rested requested signalled free rested => exact ⟨_, _, .inr (.inl ⟨free, rested⟩), rfl⟩

theorem Echoes.alike (echoes : Echoes past old new) : Alike past old new := by
  obtain ⟨requested, signalled, -, rfl⟩ := echoes
  constructor <;> rfl

/-- Polls take the same number of steps. -/
theorem Echoes.budget_eq (echoes : Echoes past old new) : old.budget = new.budget := by
  obtain ⟨requested, signalled, -, rfl⟩ := echoes
  rfl

/-- What is recorded first in a new world joins its past. -/
theorem record_onto (fresh : world.trace = []) (past : List (Entry ν)) (entry : Entry ν) :
    (world.onto past).record entry = world.onto (entry :: past) := by
  simp [record, onto, fresh]

/-- Another request is recorded with its answer, and everything goes on as before. -/
theorem Echoes.again (echoes : Echoes past old new) (ending : new.Ending)
    (fresh : new.trace = []) :
    Echoes (.called .disconnect (.ok ()) :: past) (old.call .disconnect).2 new := by
  obtain ⟨requested, signalled, unread, rfl⟩ := echoes
  cases active : new.handle.active with
  | false =>
    have performed : (new.handle.marked requested signalled).perform .disconnect =
        (.ok (), new.handle.marked requested signalled) :=
      Handle.perform_disconnect_of_free active
    have fresh : (new.marked requested signalled).trace = [] := fresh
    refine ⟨requested, signalled, unread, ?_⟩
    rw [← record_onto fresh, call]
    simp only [onto, marked] at performed ⊢
    rw [performed]
  | true =>
    have performed : (new.handle.marked requested signalled).perform .disconnect =
        (.ok (), (new.handle.marked requested signalled).marked true true) :=
      Handle.perform_disconnect active
    have fresh : (new.marked true true).trace = [] := fresh
    have unread : new.Unread true true := by
      rcases ending active with ⟨hasRequested, hasSignalled⟩ | parts
      · exact .inl ⟨hasRequested.symm, hasSignalled.symm⟩
      · exact .inr (.inr parts)
    refine ⟨true, true, unread, ?_⟩
    rw [← record_onto fresh, call]
    simp only [onto, marked] at performed ⊢
    rw [performed]
    rfl

/-- The world with nothing recorded in it. -/
def unrecorded (world : World σ ν) : World σ ν := { world with trace := [] }

/-- From two worlds on, nothing that can be observed tells two others apart. -/
structure Indistinct (start world start' world' : World σ ν) : Prop where
  since : world.since start = world'.since start'
  phase : world.handle.phase = world'.handle.phase
  active : world.handle.active = world'.handle.active
  handlerState : world.handlerState = world'.handlerState
  link : world.link = world'.link
  opens : world.opens = world'.opens
  now : world.now = world'.now

/-- What was recorded since the past is what the new world has recorded. -/
theorem Alike.since_eq (alike : Alike past old new) {start : World σ ν}
    (begins : start.trace = past) : old.since start = new.trace.reverse := by
  have grows : start.Grows new.trace.reverse old := by
    rw [Grows, alike.trace, List.reverse_reverse, begins]
  exact grows.since_eq

/-- Worlds that go on as one new world does cannot be told apart. -/
theorem Alike.indistinct {start start' other : World σ ν} (first : Alike start.trace old new)
    (second : Alike start'.trace other new) : Indistinct start old start' other where
  since := by rw [first.since_eq rfl, second.since_eq rfl]
  phase := first.phase.trans second.phase.symm
  active := first.active.trans second.active.symm
  handlerState := first.handlerState.trans second.handlerState.symm
  link := first.link.trans second.link.symm
  opens := first.opens.trans second.opens.symm
  now := first.now.trans second.now.symm

end World

namespace Setup

open World

variable {σ ν : Type} (setup : Setup σ ν) {world old new : World σ ν} {past : List (Entry ν)}

/-! ## Marks in the last step of a session -/

theorem exists_raise_marked (event : Event) (world : World σ ν) (requested signalled : Bool) :
    ∃ nowRequested nowSignalled, setup.raise event (world.marked requested signalled) =
      (setup.raise event world).marked nowRequested nowSignalled := by
  obtain ⟨nowRequested, nowSignalled, same⟩ :=
    (setup.handler.react event world.handlerState).exists_run_marked world.handle requested
      signalled
  refine ⟨nowRequested, nowSignalled, ?_⟩
  simp only [raise_eq, voice, remarks, World.marked, same]
  rfl

theorem finish_marked (world : World σ ν) (requested signalled : Bool) :
    finish (world.marked requested signalled) = (finish world).marked requested signalled := by
  cases serving : world.serving <;>
    simp [finish, World.marked, World.moveTo, World.record, Handle.marked, Handle.reset, serving]

theorem exists_close_marked (world : World σ ν) (requested signalled : Bool) :
    ∃ nowRequested nowSignalled, setup.close (world.marked requested signalled) =
      (setup.close world).marked nowRequested nowSignalled := by
  obtain ⟨nowRequested, nowSignalled, told⟩ :=
    setup.exists_raise_marked .disconnected (world.inPhase .disconnected) requested signalled
  refine ⟨nowRequested, nowSignalled, ?_⟩
  have entered : setup.enter .disconnected .disconnected (world.marked requested signalled) =
      (setup.enter .disconnected .disconnected world).marked nowRequested nowSignalled := told
  simp only [close, entered, ← finish_marked]
  rfl

/-- The step behind the leave of a session only carries the marks along. -/
theorem unread_step (parts : world.stage.isParting = true) (requested signalled : Bool) :
    ∃ nowRequested nowSignalled,
      (setup.move world .step).Unread nowRequested nowSignalled ∧
        setup.move (world.marked requested signalled) .step =
          (setup.move world .step).marked nowRequested nowSignalled := by
  obtain ⟨client, frame, stage⟩ := Stage.exists_of_isParting parts
  have sameStage : (world.marked requested signalled).stage = world.stage := rfl
  have sameLink : (world.marked requested signalled).link = world.link := rfl
  have closes (entry : Entry ν) : ∃ nowRequested nowSignalled,
      (setup.close (world.record entry)).Unread nowRequested nowSignalled ∧
        setup.close ((world.marked requested signalled).record entry) =
          (setup.close (world.record entry)).marked nowRequested nowSignalled := by
    obtain ⟨nowRequested, nowSignalled, same⟩ :=
      setup.exists_close_marked (world.record entry) requested signalled
    obtain ⟨marks, ends⟩ := setup.exists_ends_close (world.record entry)
    exact ⟨_, _, .inr (.inl ⟨ends.yielded ends.ended, ends.ended⟩), same⟩
  simp only [Setup.move, step, sameStage, stage, send, sameLink, Link.send?]
  cases world.link.sendMode with
  | pend => exact ⟨requested, signalled, .inr (.inr parts), rfl⟩
  | ok | fail => exact closes _

/-- Every move keeps old and new together. -/
theorem echoes_move (echoes : Echoes past old new) (move : Move) :
    Echoes past (setup.move old move) (setup.move new move) := by
  obtain ⟨requested, signalled, unread, rfl⟩ := echoes
  rcases unread with ⟨rfl, rfl⟩ | ⟨free, rested⟩ | parts
  · exact .of_resumes (setup.resumes_move (.same new) move)
  · exact .of_resumes (setup.resumes_move (.rested requested signalled free rested) move)
  · rw [move_onto]
    have stays (nowRequested nowSignalled : Bool)
        (still : (setup.move new move).stage.isParting = true)
        (carried : setup.move (new.marked requested signalled) move =
          (setup.move new move).marked nowRequested nowSignalled) :
        Echoes past ((setup.move (new.marked requested signalled) move).onto past)
          (setup.move new move) :=
      ⟨_, _, .inr (.inr still), by rw [carried]⟩
    cases move with
    | step =>
      obtain ⟨nowRequested, nowSignalled, unread, carried⟩ :=
        setup.unread_step parts requested signalled
      exact ⟨_, _, unread, by rw [carried]⟩
    | call request =>
      obtain ⟨nowRequested, nowSignalled, performed⟩ :=
        new.handle.exists_perform_marked requested signalled request
      refine stays nowRequested nowSignalled parts ?_
      simp only [Setup.move, World.call, World.marked, performed]
      rfl
    | openResult outcome =>
      obtain ⟨client, frame, stage⟩ := Stage.exists_of_isParting parts
      have ignored (other : World σ ν) (same : other.stage = new.stage) :
          other.answerOpen outcome = other := by
        simp only [answerOpen, same, stage]
      refine stays requested signalled ?_ ?_
      · rwa [Setup.move, ignored new rfl]
      · rw [Setup.move, Setup.move, ignored new rfl,
          ignored (new.marked requested signalled) rfl]
    | wait => exact stays _ _ (by simpa [Setup.move] using parts) rfl
    | deliver | sendMode | advance | ask => exact stays _ _ parts rfl

theorem echoes_play (echoes : Echoes past old new) (moves : List Move) :
    Echoes past (setup.play old moves) (setup.play new moves) :=
  setup.play_related (motive := Echoes past)
    (fun move echoes => setup.echoes_move echoes move) echoes moves

theorem echoes_run (echoes : Echoes past old new) (stimuli : List Stimulus) :
    Echoes past (setup.run old stimuli) (setup.run new stimuli) :=
  setup.run_related (motive := Echoes past)
    (fun move echoes => setup.echoes_move echoes move) Echoes.budget_eq echoes stimuli

/-! ## Further requests -/

/-- The world in which the end is asked for a number of times. -/
def insist (count : Nat) (world : World σ ν) : World σ ν :=
  setup.play world (.replicate count (.call .disconnect))

/-- That many disconnect requests are answered, and nothing else comes of them, neither in
what happens after them nor in what is polled. -/
structure Unnoticed (count : Nat) (world : World σ ν) : Prop where
  answered : (setup.insist count world).since world =
    .replicate count (.called .disconnect (.ok ()))
  play : ∀ moves, Indistinct (setup.insist count world)
    (setup.play (setup.insist count world) moves) world (setup.play world moves)
  run : ∀ stimuli, Indistinct (setup.insist count world)
    (setup.run (setup.insist count world) stimuli) world (setup.run world stimuli)

/-- Requests that make no difference are recorded, and everything goes on as before. -/
theorem echoes_insist (ending : world.Ending) (count : Nat) :
    Echoes (.replicate count (.called .disconnect (.ok ())) ++ world.trace)
      (setup.insist count world) world.unrecorded := by
  induction count with
  | zero => exact .of_resumes (.same world.unrecorded)
  | succ count ih =>
    have once : setup.insist (count + 1) world =
        ((setup.insist count world).call .disconnect).2 := by
      rw [insist, List.replicate_succ', play_append]
      rfl
    rw [once]
    exact ih.again ending rfl

theorem unnoticed_of_ending (ending : world.Ending) (count : Nat) :
    setup.Unnoticed count world := by
  have echoes := setup.echoes_insist ending count
  have resumes : Echoes world.trace world world.unrecorded := .of_resumes (.same world.unrecorded)
  have trace : (setup.insist count world).trace =
      .replicate count (.called .disconnect (.ok ())) ++ world.trace := echoes.alike.trace
  rw [← trace] at echoes
  refine ⟨?_, fun moves => ?_, fun stimuli => ?_⟩
  · have grows : world.Grows (.replicate count (.called .disconnect (.ok ())))
        (setup.insist count world) := by
      rw [Grows, List.reverse_replicate]
      exact trace
    exact grows.since_eq
  · exact (setup.echoes_play echoes moves).alike.indistinct (setup.echoes_play resumes moves).alike
  · exact (setup.echoes_run echoes stimuli).alike.indistinct
      (setup.echoes_run resumes stimuli).alike

variable {setup} in
/-- When the end was asked for since the slot was taken, another request makes no
difference. -/
theorem ending_of_asked {handlerState : σ} {opens : List Outcome} {history between : List Move}
    (kept : ∀ earlier, earlier <+: between →
      (setup.play (setup.play (.initial handlerState opens) history) earlier).handle.active = true)
    (asked : .called .disconnect (.ok ()) ∈
      (setup.play (setup.play (.initial handlerState opens) history) between).since
        (setup.play (.initial handlerState opens) history)) :
    (setup.play (setup.play (.initial handlerState opens) history) between).Ending := by
  intro active
  have requested : (setup.play (setup.play (.initial handlerState opens) history)
      between).handle.disconnectRequested = true := by
    obtain ⟨-, recalls⟩ := setup.remembers_play kept
    exact Bool.of_not_eq_false fun unasked => recalls unasked asked
  have alert := setup.alert_or_parting handlerState opens (history ++ between)
  rw [play_append] at alert
  exact alert.imp_left fun alert => ⟨requested, alert active requested⟩

/-- What the end of sessions comes to from a world on. -/
structure Obliging (start : World σ ν) : Prop where
  /-- An attempt that begins here takes its leave, if it does, when it has nothing else to do.
  Then it is over, whether the leave is taken or fails, and the end is told once. -/
  departs : ∀ world, setup.Attempt start world → setup.Departs start world
  /-- A leave in hand is given to the link in the next step, unless the link makes it wait. -/
  gives : ∀ world, setup.Attempt start world → .disconnect ∈ world.stage.inHand →
    world.link.sendMode ≠ .pend →
      ∃ frame, .handed .disconnect frame (decide (world.link.sendMode = .ok)) ∈
        (setup.move world .step).since start
  /-- While the slot is kept, no request behind the first one is noticed, whoever made that. -/
  again : ∀ between,
    (∀ earlier, earlier <+: between → (setup.play start earlier).handle.active = true) →
      .called .disconnect (.ok ()) ∈ (setup.play start between).since start →
        ∀ count, setup.Unnoticed count (setup.play start between)
  /-- Without an attempt, no request is noticed. -/
  alone : start.handle.active = false → ∀ count, setup.Unnoticed count start

/-- In every run, a session that is asked to end loses nothing, and asking again changes
nothing. A handler that asks again goes on as it would otherwise: it gets the same answers
and leaves the same handle but for the marks of a disconnect request, and these too as long
as the request is signalled. -/
theorem disconnect_graceful (handlerState : σ) (opens : List Outcome) (history : List Move) :
    setup.Obliging (setup.play (.initial handlerState opens) history) ∧
      ∀ (rest : Reaction ν σ) (handle : Handle),
        (∃ requested signalled, rest.again.run handle =
          ((rest.run handle).1, (rest.run handle).2.1.marked requested signalled,
            .called .disconnect (.ok ()) :: (rest.run handle).2.2)) ∧
        ((handle.active = true →
            handle.disconnectRequested = true ∧ handle.disconnectSignal = true) →
          (rest.again.run handle).2.1 = (rest.run handle).2.1) := by
  have sound := setup.sound_play handlerState opens history
  refine ⟨⟨?_, ?_, ?_, ?_⟩, fun rest handle => ⟨rest.exists_run_again handle, fun marked =>
    rest.run_again_of_marked marked⟩⟩
  · exact fun world attempt => attempt.departs sound
  · exact fun world attempt parts mode => attempt.gives sound parts mode
  · exact fun between kept asked count =>
      setup.unnoticed_of_ending (ending_of_asked kept asked) count
  · intro free count
    exact setup.unnoticed_of_ending (fun active => absurd (active.symm.trans free) nofun) count

end Setup

/-- The broker accepts a session, which gets as far as to its first turn. -/
def Move.acceptance : List Move := .deliver (.data [0x20, 2, 0, 0]) :: .replicate 4 .step

/-- A caller asks for the end and publishes all the same. -/
def Move.afterthought : List Move :=
  [.call .disconnect, .call (.publish ⟨"more", [2], .atMostOnce⟩)]

/-- The caller asks again and subscribes before the task gets to the first request. -/
def Move.patientLeave : List Move :=
  Move.acceptance ++ Move.afterthought ++ [.call .disconnect, .call (.subscribe "news")] ++
    .replicate 8 .step

/-- All three requests go out before the leave, and any number of disconnect requests behind
the first one is as good as none. -/
theorem Setup.greeter_patientLeave :
    greeter.Departs .asked (greeter.play .asked (.step :: Move.patientLeave)) ∧
      ((greeter.play .asked (.step :: Move.patientLeave)).since .asked).filterMap Entry.showing? =
        [.given (.connect ⟨"nrf-1", 60, true⟩) true,
          .given (.publish ⟨"hello", [1], .atLeastOnce, some 1, false, false⟩) true,
          .given (.publish ⟨"more", [2], .atMostOnce, some 2, false, false⟩) true,
          .given (.subscribe ⟨3, [("news", .atLeastOnce)]⟩) true,
          .given .disconnect true, .ended, .dropped] ∧
      ∀ count, greeter.Unnoticed count (greeter.play
        (greeter.play (.initial 0 []) (.ask .once :: .step :: Move.acceptance))
          Move.afterthought) := by
  have attempt : greeter.Attempt .asked (greeter.play .asked (.step :: Move.patientLeave)) := by
    rw [play_cons]
    exact Attempt.play greeter (.begun (.inl ⟨rfl, rfl⟩)) (by decide +kernel)
  have departs := (disconnect_graceful greeter 0 [] [.ask .once]).1.departs _ attempt
  refine ⟨departs, by decide +kernel, ?_⟩
  have obliging := (disconnect_graceful greeter 0 [] (.ask .once :: .step :: Move.acceptance)).1
  have kept : ∀ earlier ∈ Move.afterthought.inits,
      (greeter.play (greeter.play (.initial 0 []) (.ask .once :: .step :: Move.acceptance))
        earlier).handle.active = true := by
    decide +kernel
  have taken := kept [] (by decide)
  rw [play_nil] at taken
  refine obliging.again Move.afterthought ?_ ?_
  · exact fun earlier isPrefix => kept earlier ((List.mem_inits _ _).mpr isPrefix)
  · generalize greeter.play (.initial 0 []) (.ask .once :: .step :: Move.acceptance) = start
      at taken ⊢
    have calls := (start.grows_call .disconnect).append
      (World.grows_call _ (.publish ⟨"more", [2], .atMostOnce⟩))
    rw [Handle.perform_disconnect taken] at calls
    rw [Move.afterthought, play_cons, play_cons, play_nil, move, move, calls.since_eq]
    exact List.mem_cons_self

end Uplink
