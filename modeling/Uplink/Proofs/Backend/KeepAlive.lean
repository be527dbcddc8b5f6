import Uplink.Proofs.Backend.Exchange
import Uplink.Proofs.Backend.Settling

/-!
# Keeping a session alive

A session measures its silence from the last send that succeeded, and from nothing else.
`Setup.timeline` puts the moment to everything that is recorded, so that the moment of
that send can be read off. `Timed` is the invariant: the client remembers the moment, and
the deadline of a turn is when the budget ends, or it has passed.
-/

namespace Uplink

/-- A packet was given to the link and taken. -/
def Entry.isSent {ν : Type} : Entry ν → Bool
  | handed _ _ taken => taken
  | called _ _ | raised _ _ | opened _ | received _ | handled _ | aborted | returned
  | noted _ => false

/-- The moment of the last send that succeeded. -/
def lastSent {ν : Type} (timeline : List (Micros × Entry ν)) : Option Micros :=
  (timeline.filter (·.2.isSent)).getLast?.map Prod.fst

/-- What is recorded at one moment changes the last send if it has one. -/
theorem lastSent_append {ν : Type} (timeline : List (Micros × Entry ν)) (now : Micros)
    (entries : List (Entry ν)) :
    lastSent (timeline ++ entries.map (now, ·)) =
      if entries.any Entry.isSent then some now else lastSent timeline := by
  induction entries using List.reverseRecOn with
  | nil => simp
  | append_singleton entries entry ih =>
    rw [List.map_append, ← List.append_assoc, List.any_append, List.map_singleton]
    cases sent : entry.isSent with
    | true => simp [lastSent, sent]
    | false => simpa [lastSent, sent] using ih

/-- Whatever is sent is sent by the task. -/
theorem Entry.any_isSent_filter {ν : Type} (entries : List (Entry ν)) :
    (entries.filter isDeed).any isSent = entries.any isSent := by
  have deed (entry : Entry ν) : (entry.isDeed && entry.isSent) = entry.isSent := by
    cases entry <;> simp [isDeed, isSent]
  simp [List.any_filter, deed]

/-- Nothing is sent while a packet is handled. -/
theorem Entry.any_isSent_handled {ν : Type} (packet : Inbound) (phase : Phase) :
    (.handled packet :: tidings phase packet : List (Entry ν)).any isSent = false := by
  rw [List.any_eq_false]
  intro entry isEntry
  rcases List.mem_cons.mp isEntry with rfl | told
  · exact nofun
  · obtain ⟨event, phase, rfl, -, -⟩ := exists_raised_of_mem_tidings told
    exact nofun

/-- Handing out a packet is no sending. -/
theorem Client.pace_of_next {client rested : Client}
    {result : Except ProtocolError (Option Inbound)} (reads : client.next = (result, rested)) :
    rested.options = client.options ∧ rested.lastSend = client.lastSend := by
  have same : rested = client.next.2 := (congrArg Prod.snd reads).symm
  subst same
  simp only [next]
  split <;> exact ⟨rfl, rfl⟩

namespace Setup

open Entry

variable {σ ν : Type} (setup : Setup σ ν)

/-- The keep-alive of a device's sessions: whole seconds, and as many as can be announced. -/
def longestSilence : Micros := min (setup.config.keepAlive / microsPerSecond) 65535 * microsPerSecond

/-- What is announced is what is observed. -/
theorem keepAlive_options : setup.options.keepAlive = setup.longestSilence := by
  rw [SessionOptions.keepAlive, options, SessionOptions.toNat_keepAliveSeconds_withKeepAlive]
  rfl

/-- What is recorded during some moves, each with its moment. -/
def timeline (world : World σ ν) : List Move → List (Micros × Entry ν)
  | [] => []
  | move :: moves =>
    ((setup.move world move).since world).map (world.now, ·) ++
      timeline (setup.move world move) moves

theorem timeline_concat (world : World σ ν) (moves : List Move) (move : Move) :
    setup.timeline world (moves ++ [move]) = setup.timeline world moves ++
      ((setup.move (setup.play world moves) move).since (setup.play world moves)).map
        ((setup.play world moves).now, ·) := by
  induction moves generalizing world with
  | nil => simp [timeline]
  | cons first moves ih => rw [List.cons_append, timeline, ih, timeline, play_cons, List.append_assoc]

/-- A timeline leaves nothing out. -/
theorem map_snd_timeline (world : World σ ν) (moves : List Move) :
    (setup.timeline world moves).map Prod.snd = (setup.play world moves).since world := by
  induction moves using List.reverseRecOn with
  | nil => simp [timeline, World.since]
  | append_singleton moves move ih =>
    have earlier := (setup.play_evolves world moves).grows
    have last := (setup.move_evolves (setup.play world moves) move).grows
    rw [timeline_concat, List.map_append, ih, play_append, play_cons, play_nil,
      (earlier.append last).since_eq, List.map_map]
    exact congrArg _ (List.map_id'' (fun _ => rfl) _)

/-- A client of the session that knows when its last send succeeded. -/
structure Paced (sent : Option Micros) (now : Micros) (client : Client) : Prop where
  options : client.options = setup.options
  sent_eq : sent = some client.lastSend
  past : client.lastSend ≤ now

/-- What a session knows of its silence at a stage. Before the first packet is sent there is
nothing to know. -/
inductive Timed (sent : Option Micros) (now : Micros) : Stage → Prop where
  | rested {stage : Stage} (isOver : stage.isBusy = false) : Timed sent now stage
  | opening : Timed sent now .opening
  | greeting {client : Client} {packet : Outbound} {frame : Bytes} {next : Continuation}
      (options : client.options = setup.options) (opens : packet ≠ .pingReq) :
      Timed sent now (.sending client packet frame next)
  | sending {client : Client} {packet : Outbound} {frame : Bytes} {next : Continuation}
      (paced : setup.Paced sent now client)
      (late : packet = .pingReq → setup.longestSilence ≠ 0 ∧
        client.lastSend + setup.longestSilence ≤ now) :
      Timed sent now (.sending client packet frame next)
  | draining {client : Client} (paced : setup.Paced sent now client) :
      Timed sent now (.draining client)
  | selecting {client : Client} {deadline : Micros} {armed : Bool}
      (paced : setup.Paced sent now client)
      (budget : setup.longestSilence ≠ 0 →
        client.lastSend + setup.longestSilence ≤ deadline ∧
          (deadline ≤ now ∨ deadline = client.lastSend + setup.longestSilence)) :
      Timed sent now (.selecting client deadline armed)

variable {setup} {sent : Option Micros} {now : Micros} {stage : Stage} {client : Client}
  {world : World σ ν} {deeds : List (Entry ν)}

/-- What is left of a budget ends with it, and is nothing behind its end. -/
theorem budget_spent {last now silence : Nat} (past : last ≤ now) :
    last + silence ≤ now + (silence - (now - last)) ∧
      (now + (silence - (now - last)) ≤ now ∨
        now + (silence - (now - last)) = last + silence) := by
  omega

theorem budget_left {last now silence : Nat} (past : last ≤ now) :
    silence - (now - last) = last + silence - now := by
  omega

theorem Paced.later (paced : setup.Paced sent now client) {later : Micros} (order : now ≤ later) :
    setup.Paced sent later client :=
  ⟨paced.options, paced.sent_eq, paced.past.trans order⟩

theorem Paced.of_same (paced : setup.Paced sent now client) {other : Client}
    (options : other.options = client.options) (lastSend : other.lastSend = client.lastSend) :
    setup.Paced sent now other :=
  ⟨options.trans paced.options, lastSend ▸ paced.sent_eq, lastSend ▸ paced.past⟩

theorem Paced.keepAlive (paced : setup.Paced sent now client) :
    client.options.keepAlive = setup.longestSilence := by
  rw [paced.options, keepAlive_options]

/-- A turn that begins waits until the budget ends, and not at all when it has ended. -/
theorem Timed.of_turn (paced : setup.Paced sent now client) :
    setup.Timed sent now (.selecting client (deadline client now) false) := by
  refine .selecting paced fun on => ?_
  simp only [deadline, Client.timeLeft, paced.keepAlive, if_neg on, Option.getD_some]
  exact budget_spent paced.past

theorem Timed.later (timed : setup.Timed sent now stage) {later : Micros} (order : now ≤ later) :
    setup.Timed sent later stage := by
  cases timed with
  | rested isOver => exact .rested isOver
  | opening => exact .opening
  | greeting options opens => exact .greeting options opens
  | sending paced late =>
    refine .sending (paced.later order) fun isPing => ?_
    obtain ⟨on, due⟩ := late isPing
    exact ⟨on, due.trans order⟩
  | draining paced => exact .draining (paced.later order)
  | selecting paced budget =>
    refine .selecting (paced.later order) fun on => ?_
    obtain ⟨begins, ends⟩ := budget on
    exact ⟨begins, ends.imp_left fun passed => passed.trans order⟩

theorem Timed.waiting (timed : setup.Timed sent now stage) : setup.Timed sent now stage.waiting := by
  cases timed with
  | rested isOver =>
    rw [Stage.waiting_of_rested isOver]
    exact .rested isOver
  | opening => exact .opening
  | greeting options opens => exact .greeting options opens
  | sending paced late => exact .sending paced late
  | draining paced => exact .draining paced
  | selecting paced budget => exact .selecting paced budget

theorem Timed.of_firstAct (acts : setup.FirstAct now deeds stage) : setup.Timed sent now stage := by
  cases acts with
  | cancelled isOver | unreachable isOver => exact .rested isOver
  | linked frame => exact .greeting rfl nofun
  | pending => exact .opening

/-- The client of a session that is not sending is paced. -/
theorem Timed.paced (timed : setup.Timed sent now stage)
    (listens : stage = .draining client ∨
      ∃ deadline armed, stage = .selecting client deadline armed) : setup.Paced sent now client := by
  rcases listens with rfl | ⟨deadline, armed, rfl⟩
  · cases timed with
    | rested isOver => cases isOver
    | draining paced => exact paced
  · cases timed with
    | rested isOver => cases isOver
    | selecting paced => exact paced

/-- A send that succeeds begins a new budget. -/
theorem Timed.paced_sent {packet : Outbound} {frame : Bytes} {next : Continuation}
    (timed : setup.Timed sent now (.sending client packet frame next)) :
    setup.Paced (some now) now (client.sentAt now) := by
  have options : client.options = setup.options := by
    cases timed with
    | rested isOver => cases isOver
    | greeting options => exact options
    | sending paced => exact paced.options
  exact ⟨options, rfl, Nat.le_refl now⟩

/-- Every step keeps the time. -/
theorem Timed.of_act (timed : setup.Timed sent world.now world.stage)
    (acts : setup.Act world deeds stage) :
    setup.Timed (if deeds.any Entry.isSent then some world.now else sent) world.now stage := by
  cases acts with
  | linked isStage frame => exact .greeting rfl nofun
  | unreachable _ isOver | sendFailed _ isOver | sentForClose _ isOver | unreadable _ _ isOver
  | refused _ _ _ isOver | broken _ isOver => exact .rested isOver
  | sentForTurn isStage =>
    rw [isStage] at timed
    exact .of_turn timed.paced_sent
  | sentForDrain isStage =>
    rw [isStage] at timed
    exact .draining timed.paced_sent
  | drained isStage reads =>
    rw [isStage] at timed
    obtain ⟨options, lastSend⟩ := Client.pace_of_next reads
    exact .of_turn ((timed.paced (.inl rfl)).of_same options lastSend)
  | settled isStage reads =>
    rw [isStage] at timed
    obtain ⟨options, lastSend⟩ := Client.pace_of_next reads
    rw [any_isSent_handled]
    exact .draining ((timed.paced (.inl rfl)).of_same options lastSend)
  | answered isStage reads welcome owed frame =>
    rw [isStage] at timed
    obtain ⟨options, lastSend⟩ := Client.pace_of_next reads
    rw [any_isSent_handled]
    refine .sending ((timed.paced (.inl rfl)).of_same options lastSend) ?_
    rintro rfl
    obtain ⟨packetId, same | same⟩ := Inbound.exists_of_answer? owed <;> cases same
  | received isStage =>
    rw [isStage] at timed
    exact .draining ((timed.paced (.inr ⟨_, _, rfl⟩)).of_same rfl rfl)
  | idled isStage =>
    rw [isStage] at timed
    exact .of_turn ((timed.paced (.inr ⟨_, _, rfl⟩)).of_same rfl rfl)
  | @pinging client due isStage late on frame =>
    rw [isStage] at timed
    cases timed with
    | rested isOver => cases isOver
    | selecting paced budget =>
      rw [paced.options, keepAlive_options] at on
      exact .sending (paced.of_same rfl rfl) fun _ => ⟨on, (budget on).1.trans late⟩
  | @requested client deadline armed request isStage frame =>
    rw [isStage] at timed
    refine .sending ((timed.paced (.inr ⟨_, _, rfl⟩)).of_same rfl rfl) fun isPing => ?_
    cases request <;> cases isPing
  | disconnecting isStage asked frame =>
    rw [isStage] at timed
    exact .sending ((timed.paced (.inr ⟨_, _, rfl⟩)).of_same rfl rfl) nofun

/-- A ping is started when the budget has ended. -/
theorem Timed.late (timed : setup.Timed sent now stage) (pings : .pingReq ∈ stage.inHand) :
    setup.longestSilence ≠ 0 ∧ ∃ last, sent = some last ∧ last + setup.longestSilence ≤ now := by
  cases timed with
  | rested isOver =>
    rw [Stage.inHand_of_rested isOver] at pings
    cases pings
  | opening | draining | selecting => cases pings
  | greeting options opens => exact absurd (List.mem_singleton.mp pings).symm opens
  | @sending client packet frame next paced late =>
    obtain ⟨on, due⟩ := late (List.mem_singleton.mp pings).symm
    exact ⟨on, client.lastSend, paced.sent_eq, due⟩

/-! ## Runs -/

section

variable {before : World σ ν}

/-- During an attempt the time is kept, and no ping is sent without keep-alive. -/
theorem timed_underway (due : before.AttemptDue) (sound : before.Sound) {moves : List Move}
    (underway : setup.underwayThrough (setup.move before .step) moves = true) :
    setup.Timed (lastSent (setup.timeline before (.step :: moves)))
        (setup.play before (.step :: moves)).now (setup.play before (.step :: moves)).stage ∧
      (setup.longestSilence = 0 → ∀ frame taken, .handed .pingReq frame taken ∉
        (setup.play before (.step :: moves)).since before) := by
  -- The induction is on the moves, since it is a move that has a moment.
  refine setup.underway_induction (motive := fun moves world =>
    setup.Timed (lastSent (setup.timeline before moves)) world.now world.stage ∧
      (setup.longestSilence = 0 →
        ∀ frame taken, .handed .pingReq frame taken ∉ world.since before)) due ?_ ?_ underway
  · have now : (setup.beginAttempt before.prepared).now = before.now :=
      (congrArg Prod.fst (setup.beginAttempt_outset before.prepared)).trans before.prepared_now
    rw [move, step_of_due setup due, Option.getD_some, now]
    obtain ⟨deeds, does, acts⟩ := setup.acts_of_beginCase (setup.beginAttempt_cases before.prepared)
    refine ⟨.of_firstAct acts, fun _ frame taken given => ?_⟩
    exact acts.not_mem_handed (does.mem_deeds given rfl)
  · intro moves world move reached attempt busy holds
    obtain ⟨timed, unpinged⟩ := holds
    have later := setup.now_le_move world move
    have grows := (setup.move_evolves world move).grows
    rw [timeline_concat, ← reached, lastSent_append, attempt.since_grows setup grows]
    generalize moved : setup.move world move = after at later grows ⊢
    cases setup.move_cases moved with
    | idled =>
      rw [(World.Grows.refl world).since_eq]
      exact ⟨timed, by simpa using unpinged⟩
    | stepped follows =>
      obtain ⟨deeds, does, acts⟩ := attempt.acts sound busy follows
      constructor
      · rw [← any_isSent_filter, does.since_eq, follows.now_eq]
        exact timed.of_act acts
      · intro off frame taken given
        rcases List.mem_append.mp given with earlier | last
        · exact unpinged off frame taken earlier
        · exact (timed.late (acts.mem_inHand (does.mem_deeds last rfl))).1 off
    | called request =>
      rw [(world.grows_call request).since_eq]
      exact ⟨timed, by simpa using unpinged⟩
    | beside left =>
      have silent : world.Grows [] after := left.trace
      rw [silent.since_eq]
      refine ⟨?_, by simpa using unpinged⟩
      rcases left.stage with stage | waits
      · rw [stage]
        exact timed.later later
      · rw [waits]
        exact timed.waiting.later later

end

/-- How an attempt keeps its session alive, when the last send of it succeeded at a moment. -/
structure KeepsAlive (setup : Setup σ ν) (sent : Option Micros) (entries : List (Entry ν))
    (world : World σ ν) : Prop where
  /-- Without keep-alive no ping is sent. -/
  unpinged : setup.longestSilence = 0 → .pingReq ∉ world.stage.inHand ∧
    ∀ frame taken, .handed .pingReq frame taken ∉ entries
  /-- A ping is not started before the last send is as long ago as the keep-alive. -/
  not_early : .pingReq ∈ world.stage.inHand →
    ∃ last, sent = some last ∧ last + setup.longestSilence ≤ world.now
  /-- The session does not wait in a turn until then, once polling the task changes nothing. -/
  not_late : ∀ client due armed, world.stage = .selecting client due armed →
    setup.poll world = world → setup.longestSilence ≠ 0 →
      ∃ last, sent = some last ∧ world.now < last + setup.longestSilence
  /-- What is left until then counts from the last send, whatever else happened. -/
  budget : ∀ client, (world.stage = .draining client ∨
      ∃ due armed, world.stage = .selecting client due armed) →
    ∃ last, sent = some last ∧ last ≤ world.now ∧ client.timeLeft world.now =
      if setup.longestSilence = 0 then none
      else some (last + setup.longestSilence - world.now)

theorem KeepsAlive.of_timed {entries : List (Entry ν)}
    (timed : setup.Timed sent world.now world.stage)
    (unpinged : setup.longestSilence = 0 → ∀ frame taken, .handed .pingReq frame taken ∉ entries) :
    KeepsAlive setup sent entries world where
  unpinged off := ⟨fun pings => (timed.late pings).1 off, unpinged off⟩
  not_early pings := (timed.late pings).2
  not_late client due armed stage settled on := by
    rw [stage] at timed
    cases timed with
    | rested isOver => cases isOver
    | selecting paced budget =>
      obtain rfl := armed_of_poll_eq stage settled
      have keepAlive := paced.keepAlive
      have waits := step_eq_none_of_poll_eq stage (keepAlive.symm ▸ on) settled
      have early := early_of_step_eq_none stage waits
      refine ⟨client.lastSend, paced.sent_eq, ?_⟩
      rcases (budget on).2 with passed | ends
      · exact absurd early (Nat.not_lt.mpr passed)
      · rwa [ends] at early
  budget client listens := by
    have paced := timed.paced listens
    refine ⟨client.lastSend, paced.sent_eq, paced.past, ?_⟩
    rw [Client.timeLeft, paced.keepAlive, budget_left paced.past]

/-- In every attempt of a run, pings are sent for keep-alive only, and neither before the last
successful send is as long ago as the keep-alive, nor does the session wait longer. Only
sending extends the budget. -/
theorem Attempt.kept_alive {handlerState : σ} {opens : List Outcome} {history moves : List Move}
    (due : (setup.play (.initial handlerState opens) history).AttemptDue)
    (underway : setup.underwayThrough
      (setup.move (setup.play (.initial handlerState opens) history) .step) moves = true) :
    let before := setup.play (.initial handlerState opens) history
    let world := setup.play before (.step :: moves)
    KeepsAlive setup (lastSent (setup.timeline before (.step :: moves))) (world.since before)
      world := by
  intro before world
  obtain ⟨timed, unpinged⟩ :=
    timed_underway due (setup.sound_play handlerState opens history) underway
  exact .of_timed timed unpinged

end Setup

/-- The first packet is sent, and then nothing happens for as long as the keep-alive. -/
def Move.quietMinute : List Move := [.step, .wait, .advance 60000000, .step]

/-- After a minute of silence a ping is in hand. -/
theorem Setup.Attempt.greeter_quietMinute :
    KeepsAlive greeter (lastSent (greeter.timeline .asked (.step :: Move.quietMinute)))
        ((greeter.play .asked (.step :: Move.quietMinute)).since .asked)
        (greeter.play .asked (.step :: Move.quietMinute)) ∧
      lastSent (greeter.timeline .asked (.step :: Move.quietMinute)) = some 0 ∧
      (greeter.play .asked (.step :: Move.quietMinute)).stage.inHand = [.pingReq] := by
  have due : (greeter.play (.initial 0 []) [.ask .once]).AttemptDue := .inl ⟨rfl, rfl⟩
  have underway : greeter.underwayThrough
      (greeter.move (greeter.play (.initial 0 []) [.ask .once]) .step) Move.quietMinute = true := by
    decide +kernel
  have kept := Attempt.kept_alive due underway
  exact ⟨kept, by decide +kernel, by decide +kernel⟩

end Uplink
