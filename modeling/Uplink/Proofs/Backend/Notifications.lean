import Mathlib.Computability.RegularExpressions
import Uplink.Proofs.Backend.Attempts

/-!
# What an attempt tells

The events of an attempt form a word of `EventKind.attempt`, whatever the broker, the
link, the clock and the callers do, and wherever the attempt ends. `Heard` is the
invariant that carries this: it ties the word so far to the phase of the handle, and to
the first answer of the broker.
-/

namespace Uplink

namespace EventKind

open RegularExpression

/-- Events before the broker has accepted the session. -/
def opening : RegularExpression EventKind := char .connecting * (char .dataReceived).star

/-- Events from the acceptance on. -/
def session : RegularExpression EventKind :=
  char .connected * char .ready * (char .dataReceived).star

/-- Events of an attempt that is under way. -/
def underway : RegularExpression EventKind := opening * (1 + session)

/-- Events of a whole attempt. -/
def attempt : RegularExpression EventKind := underway * char .disconnected

variable {word : List EventKind}

/-- Another message may follow where messages may be repeated. -/
theorem append_data {before : RegularExpression EventKind}
    (heard : word ∈ (before * (char dataReceived).star).matches') :
    word ++ [dataReceived] ∈ (before * (char dataReceived).star).matches' := by
  simp only [matches'_mul, matches'_star, matches'_char] at heard ⊢
  obtain ⟨first, isFirst, messages, areMessages, rfl⟩ := Language.mem_mul.mp heard
  obtain ⟨pieces, rfl, arePieces⟩ := Language.mem_kstar.mp areMessages
  rw [List.append_assoc]
  have oneMore : pieces.flatten ++ [dataReceived] = (pieces ++ [[dataReceived]]).flatten := by
    simp
  refine Language.append_mem_mul isFirst (Language.mem_kstar.mpr ⟨_, oneMore, ?_⟩)
  intro piece isPiece
  rcases List.mem_append.mp isPiece with earlier | last
  · exact arePieces piece earlier
  · rw [List.mem_singleton.mp last]
    rfl

theorem connecting_mem_opening : [connecting] ∈ opening.matches' := by
  simp only [opening, matches'_mul, matches'_star, matches'_char]
  exact Language.append_mem_mul (a := [connecting]) (b := []) rfl (Language.nil_mem_kstar _)

theorem append_accepted (heard : word ∈ opening.matches') :
    word ++ [connected, ready] ∈ (opening * session).matches' := by
  simp only [session, matches'_mul, matches'_star, matches'_char]
  refine Language.append_mem_mul heard ?_
  exact Language.append_mem_mul (a := [connected, ready]) (b := [])
    (Language.append_mem_mul (a := [connected]) (b := [ready]) rfl rfl) (Language.nil_mem_kstar _)

theorem underway_of_opening (heard : word ∈ opening.matches') : word ∈ underway.matches' := by
  simp only [underway, matches'_mul, matches'_add, matches'_epsilon, mul_add, mul_one]
  exact (Language.mem_add _ _ _).mpr (.inl heard)

theorem underway_of_session (heard : word ∈ (opening * session).matches') :
    word ∈ underway.matches' := by
  simp only [underway, matches'_mul, matches'_add, matches'_epsilon, mul_add, mul_one] at heard ⊢
  exact (Language.mem_add _ _ _).mpr (.inr heard)

theorem append_data_session (heard : word ∈ (opening * session).matches') :
    word ++ [dataReceived] ∈ (opening * session).matches' := by
  rw [matches'_mul] at heard ⊢
  obtain ⟨first, isFirst, second, isSecond, rfl⟩ := Language.mem_mul.mp heard
  rw [List.append_assoc]
  exact Language.append_mem_mul isFirst (append_data isSecond)

theorem append_disconnected (heard : word ∈ underway.matches') :
    word ++ [disconnected] ∈ attempt.matches' := by
  simp only [attempt, matches'_mul, matches'_char]
  exact Language.append_mem_mul heard rfl

end EventKind

/-- The phase that an event tells of. A message tells of none. -/
def Event.phase? : Event → Option Phase
  | connecting => some .connecting
  | connected => some .connected
  | ready => some .ready
  | disconnected => some .disconnected
  | dataReceived _ _ => none

namespace Entry

variable {ν : Type} {entries more : List (Entry ν)} {phase : Phase}

/-- The kinds of the events that were raised. -/
def kinds (entries : List (Entry ν)) : List EventKind := (entries.filterMap event?).map Event.kind

/-- The first answer to the connection request. -/
def firstAnswer? (entries : List (Entry ν)) : Option ConnAck := (entries.filterMap connAck?).head?

/-- The first answer to the connection request accepted the session, and this was told
at once. -/
def Accepted (entries : List (Entry ν)) : Prop :=
  ∃ earlier answer later, entries = earlier ++
    .handled (.connAck answer) :: .raised .connected .connected :: later ∧
    answer.returnCode = 0 ∧ earlier.filterMap connAck? = []

/-- Every event was raised in the phase that it tells of. -/
def Truthful (entries : List (Entry ν)) : Prop :=
  ∀ event phase, .raised event phase ∈ entries → event.phase? = none ∨ event.phase? = some phase

theorem kinds_of_silent (silent : entries.filterMap event? = []) : kinds entries = [] := by
  simp [kinds, silent]

@[simp] theorem kinds_cons (entry : Entry ν) (entries : List (Entry ν)) :
    kinds (entry :: entries) = (entry.event?.map Event.kind).toList ++ kinds entries := by
  cases told : entry.event? <;> simp [kinds, told]

@[simp] theorem kinds_append (entries more : List (Entry ν)) :
    kinds (entries ++ more) = kinds entries ++ kinds more := by
  simp [kinds]

theorem Truthful.append (first : Truthful entries) (second : Truthful more) :
    Truthful (entries ++ more) := by
  intro event phase isRaised
  rcases List.mem_append.mp isRaised with earlier | later
  · exact first event phase earlier
  · exact second event phase later

/-- What raises no event is truthful. -/
theorem truthful_of_silent (silent : entries.filterMap event? = []) : Truthful entries := by
  intro event phase isRaised
  have raised : event ∈ entries.filterMap event? := List.mem_filterMap.mpr ⟨_, isRaised, rfl⟩
  simp [silent] at raised

theorem Accepted.append (accepted : Accepted entries) (more : List (Entry ν)) :
    Accepted (entries ++ more) := by
  obtain ⟨earlier, answer, later, rfl, success, unanswered⟩ := accepted
  exact ⟨earlier, answer, later ++ more, by simp, success, unanswered⟩

theorem Accepted.firstAnswer (accepted : Accepted entries) :
    ∃ answer, firstAnswer? entries = some answer ∧ answer.returnCode = 0 := by
  obtain ⟨earlier, answer, later, rfl, success, unanswered⟩ := accepted
  refine ⟨answer, ?_, success⟩
  simp [firstAnswer?, unanswered, connAck?]

theorem Accepted.connected_mem (accepted : Accepted entries) : .connected ∈ kinds entries := by
  obtain ⟨earlier, answer, later, rfl, success, unanswered⟩ := accepted
  simp [kinds, event?, Event.kind]

/-- How far an attempt has come in a phase, as told so far. -/
inductive Heard (entries : List (Entry ν)) : Phase → Prop where
  | awaiting (word : kinds entries ∈ EventKind.opening.matches')
      (unaccepted : .connected ∉ kinds entries) (unanswered : entries.filterMap connAck? = []) :
      Heard entries .connecting
  | inSession (word : kinds entries ∈ (EventKind.opening * EventKind.session).matches')
      (accepted : Accepted entries) : Heard entries .ready

/-- What the entries of an attempt tell: a word of some shape, in which the connection is
told exactly when the first answer accepts it, and then at once. -/
structure Told (shape : RegularExpression EventKind) (entries : List (Entry ν)) : Prop where
  word : kinds entries ∈ shape.matches'
  connected_iff : .connected ∈ kinds entries ↔
    ∃ answer, firstAnswer? entries = some answer ∧ answer.returnCode = 0
  connected_at : .connected ∈ kinds entries → Accepted entries
  truthful : Truthful entries

/-- Silent entries change nothing. While the session is not accepted they must not hold
an answer. -/
theorem Heard.append_silent (heard : Heard entries phase) (silent : kinds more = [])
    (unanswered : phase = .connecting → more.filterMap connAck? = []) :
    Heard (entries ++ more) phase := by
  cases heard with
  | awaiting word unaccepted first =>
    refine .awaiting ?_ ?_ ?_
    · simpa [silent] using word
    · simpa [silent] using unaccepted
    · simp [first, unanswered rfl]
  | inSession word accepted =>
    exact .inSession (by simpa [silent] using word) (accepted.append more)

/-- A message can be told at any time. -/
theorem Heard.append_data (heard : Heard entries phase) (told : kinds more = [.dataReceived])
    (unanswered : more.filterMap connAck? = []) : Heard (entries ++ more) phase := by
  cases heard with
  | awaiting word unaccepted first =>
    refine .awaiting ?_ ?_ ?_
    · rw [kinds_append, told]
      exact EventKind.append_data word
    · simpa [told] using unaccepted
    · simp [first, unanswered]
  | inSession word accepted =>
    refine .inSession ?_ (accepted.append more)
    rw [kinds_append, told]
    exact EventKind.append_data_session word

/-- The answer that accepts the session is told by two events. -/
theorem Heard.append_accepted (heard : Heard entries .connecting) {answer : ConnAck}
    (success : answer.returnCode = 0) (told : kinds more = [.ready]) :
    Heard (entries ++ .handled (.connAck answer) :: .raised .connected .connected :: more)
      .ready := by
  cases heard with
  | awaiting word unaccepted unanswered =>
    refine .inSession ?_ ⟨entries, answer, more, rfl, success, unanswered⟩
    have events : kinds (.handled (.connAck answer) :: .raised .connected .connected :: more) =
        .connected :: kinds more := rfl
    rw [kinds_append, events, told]
    exact EventKind.append_accepted word

/-- While an attempt is under way, it tells a word of its shape so far. -/
theorem Heard.told (heard : Heard entries phase) (truthful : Truthful entries) :
    Told EventKind.underway entries := by
  cases heard with
  | awaiting word unaccepted unanswered =>
    refine ⟨EventKind.underway_of_opening word, ?_, fun told => absurd told unaccepted, truthful⟩
    simp [unaccepted, firstAnswer?, unanswered]
  | inSession word accepted =>
    exact ⟨EventKind.underway_of_session word,
      ⟨fun _ => accepted.firstAnswer, fun _ => accepted.connected_mem⟩, fun _ => accepted, truthful⟩

/-- Whatever ends an attempt, its end is told once. A late answer may only refuse. -/
theorem Heard.told_end (heard : Heard entries phase) (told : kinds more = [.disconnected])
    (refused : ∀ answer ∈ more.filterMap connAck?, answer.returnCode ≠ 0)
    (truthful : Truthful (entries ++ more)) : Told EventKind.attempt (entries ++ more) := by
  have soFar := heard.told fun event phase isRaised =>
    truthful event phase (List.mem_append_left more isRaised)
  have word : kinds (entries ++ more) ∈ EventKind.attempt.matches' := by
    rw [kinds_append, told]
    exact EventKind.append_disconnected soFar.word
  cases heard with
  | awaiting _ unaccepted unanswered =>
    have stillUnaccepted : .connected ∉ kinds (entries ++ more) := by
      simpa [told] using unaccepted
    refine ⟨word, ?_, fun connected => absurd connected stillUnaccepted, truthful⟩
    constructor
    · exact fun connected => absurd connected stillUnaccepted
    · rintro ⟨answer, first, success⟩
      simp only [firstAnswer?, List.filterMap_append, unanswered, List.nil_append] at first
      exact absurd success (refused answer (List.mem_of_mem_head? first))
  | inSession _ accepted =>
    have accepted := accepted.append more
    exact ⟨word, ⟨fun _ => accepted.firstAnswer, fun _ => accepted.connected_mem⟩,
      fun _ => accepted, truthful⟩

end Entry

namespace Setup

open Entry

variable {σ ν : Type} (setup : Setup σ ν) {before world after : World σ ν}
  {client : Client} {packet : Outbound} {next : Continuation}

@[simp] theorem kinds_voice (event : Event) (world : World σ ν) :
    kinds (setup.voice event world) = [event.kind] := by
  simp [kinds]

/-- Events are told in the phase that the handle is in. -/
theorem truthful_voice {event : Event}
    (agrees : event.phase? = none ∨ event.phase? = some world.handle.phase) :
    Truthful (setup.voice event world) := by
  intro raised phase isRaised
  obtain ⟨rfl, rfl⟩ := setup.raised_mem_voice isRaised
  exact agrees

/-- An attempt that began in `before` is under way in a world: what it told so far fits
the phase. -/
def Underway (before world : World σ ν) : Prop :=
  ∃ entries, before.Grows entries world ∧ Truthful entries ∧ Heard entries world.handle.phase

/-- An attempt that began in `before` is under way or was told to the end. -/
def Recounted (before world : World σ ν) : Prop :=
  (world.stage.isBusy = true → Underway before world) ∧
    (world.stage.isBusy = false →
      ∃ entries, before.Grows entries world ∧ Told EventKind.attempt entries)

theorem Underway.grow {more : List (Entry ν)} (underway : Underway before world)
    (grows : world.Grows more after) (phase : after.handle.phase = world.handle.phase)
    (silent : more.filterMap event? = [])
    (unanswered : world.handle.phase = .connecting → more.filterMap connAck? = []) :
    Underway before after := by
  obtain ⟨entries, earlier, truthful, heard⟩ := underway
  refine ⟨entries ++ more, earlier.append grows, truthful.append (truthful_of_silent silent), ?_⟩
  rw [phase]
  exact heard.append_silent (kinds_of_silent silent) unanswered

/-- What is neither an event nor an answer can be recorded at any time. -/
theorem Underway.record (underway : Underway before world) {entry : Entry ν}
    (silent : entry.event? = none) (unanswered : entry.connAck? = none) :
    Underway before (world.record entry) :=
  underway.grow (world.grows_record entry) rfl (by simp [silent]) (by simp [unanswered])

theorem Underway.raise_data (underway : Underway before world) (topic : String)
    (payload : Bytes) : Underway before (setup.raise (.dataReceived topic payload) world) := by
  obtain ⟨entries, earlier, truthful, heard⟩ := underway
  refine ⟨_, earlier.append (setup.grows_raise _ world),
    truthful.append (setup.truthful_voice (.inl rfl)), ?_⟩
  rw [raise_phase]
  exact heard.append_data (by simp [Event.kind]) (by simp)

/-- The answer that accepts the session takes the attempt into the session. -/
theorem Underway.accept (underway : Underway before world) {answer : ConnAck}
    (success : answer.returnCode = 0) (first : world.handle.phase = .connecting) :
    Underway before (setup.enter .ready .ready
      (setup.enter .connected .connected (world.record (.handled (.connAck answer))))) := by
  obtain ⟨entries, earlier, truthful, heard⟩ := underway
  rw [first] at heard
  refine ⟨_, earlier.append ((world.grows_record _).append (setup.grows_acceptance _)), ?_, ?_⟩
  · refine truthful.append (Truthful.append (truthful_of_silent rfl) (Truthful.append ?_ ?_))
    · exact setup.truthful_voice (.inr rfl)
    · exact setup.truthful_voice (.inr rfl)
  · rw [enter_phase]
    refine heard.append_accepted success ?_
    simp [kinds_of_silent, Event.kind]

theorem Recounted.of_moveTo (underway : Underway before world) {stage : Stage}
    (busy : stage.isBusy = true) : Recounted before (world.moveTo stage) := by
  refine ⟨fun _ => underway, ?_⟩
  simp [busy]

theorem Recounted.of_beginTurn (underway : Underway before world) :
    Recounted before (beginTurn client world) :=
  .of_moveTo underway rfl

/-- However an attempt ends, it is recounted to the end. The last packet before may be a
refusal. -/
theorem Recounted.of_ends {final : World σ ν} {last marks : List (Entry ν)}
    (underway : Underway before world) (late : world.Grows last final)
    (silent : last.filterMap event? = [])
    (refused : ∀ answer ∈ last.filterMap connAck?, answer.returnCode ≠ 0)
    (ends : setup.Ends final after marks) : Recounted before after := by
  obtain ⟨entries, earlier, soFar, heard⟩ := underway
  have marksSilent : marks.filterMap event? = [] := ends.filterMap_marks rfl rfl
  have marksUnanswered : marks.filterMap connAck? = [] := ends.filterMap_marks rfl rfl
  refine ⟨by simp [ends.ended], fun _ => ⟨_, earlier.append (late.append ends.grows), ?_⟩⟩
  refine heard.told_end ?_ ?_ (soFar.append ?_)
  · simp [farewell, kinds_of_silent silent, kinds_of_silent marksSilent, Event.kind]
  · simpa [farewell, marksUnanswered] using refused
  · exact (truthful_of_silent silent).append
      ((setup.truthful_voice (.inr rfl)).append (truthful_of_silent marksSilent))

theorem Recounted.of_giveUp (underway : Underway before world) :
    Recounted before (setup.giveUp world) := by
  obtain ⟨marks, ends⟩ := setup.exists_ends_giveUp world
  exact .of_ends setup underway (.refl world) rfl nofun ends

theorem Recounted.of_close (underway : Underway before world) :
    Recounted before (setup.close world) := by
  obtain ⟨marks, ends⟩ := setup.exists_ends_close world
  exact .of_ends setup underway (.refl world) rfl nofun ends

/-- A refusal ends the attempt, whenever it comes. -/
theorem Recounted.of_refusal (underway : Underway before world) {answer : ConnAck}
    (failure : answer.returnCode ≠ 0) :
    Recounted before (setup.close (world.record (.handled (.connAck answer)))) := by
  obtain ⟨marks, ends⟩ := setup.exists_ends_close (world.record (.handled (.connAck answer)))
  refine .of_ends setup underway (world.grows_record _) rfl ?_ ends
  simpa [connAck?] using failure

theorem Recounted.of_transmit (underway : Underway before world) :
    Recounted before (setup.transmit client packet next world) := by
  unfold transmit
  split
  · exact .of_moveTo underway rfl
  · exact .of_close setup underway

theorem Recounted.of_beginSession (underway : Underway before world) :
    Recounted before (setup.beginSession world) := by
  unfold beginSession
  exact .of_transmit setup underway

/-- An attempt begins with telling so. -/
theorem underway_greet (world : World σ ν) : Underway world (setup.greet world.prepared) := by
  refine ⟨_, setup.grows_greet_prepared world, setup.truthful_voice (.inr rfl), ?_⟩
  rw [greet_phase]
  refine .awaiting ?_ ?_ ?_
  · simpa [Event.kind] using EventKind.connecting_mem_opening
  · simp [Event.kind]
  · simp

theorem Recounted.of_beginCase (begins : setup.BeginCase before.prepared after) :
    Recounted before after := by
  have greeted := setup.underway_greet before
  have dialled : Underway before (setup.dial (setup.greet before.prepared)) :=
    greeted.record (rfl : (Entry.opened setup.config.broker).event? = none) rfl
  cases begins with
  | cancelled => exact .of_giveUp setup greeted
  | unreachable => exact .of_giveUp setup dialled
  | linked => exact .of_beginSession setup dialled
  | pending => exact .of_moveTo dialled rfl

theorem Recounted.of_packetCase {packet : Inbound} (underway : Underway before world)
    (follows : setup.PacketCase client (world.record (.handled packet)) packet after) :
    Recounted before after := by
  cases follows with
  | accepted success first => exact .of_moveTo (underway.accept setup success first) rfl
  | repeated success later =>
    -- The first answer was handled before, so this one does not count.
    refine .of_moveTo (underway.grow (world.grows_record _) rfl rfl ?_) rfl
    exact fun first => absurd first later
  | refused failure => exact .of_refusal setup underway failure
  | acknowledged =>
    exact .of_transmit setup ((underway.record rfl rfl).raise_data setup _ _)
  | delivered => exact .of_moveTo ((underway.record rfl rfl).raise_data setup _ _) rfl
  | released => exact .of_transmit setup (underway.record rfl rfl)
  | dropped | settled | subscribed | pinged => exact .of_moveTo (underway.record rfl rfl) rfl

/-- Every step takes an attempt on as its shape has it. -/
theorem Recounted.of_stepCase (busy : world.stage.isBusy = true) (underway : Underway before world)
    (taken : setup.StepCase world after) : Recounted before after := by
  cases taken with
  | served stage | begunOnce stage | begunServing stage => simp [stage, Stage.isBusy] at busy
  | linked => exact .of_beginSession setup underway
  | unreachable => exact .of_giveUp setup underway
  | sendFailed | sentForClose => exact .of_close setup (underway.record rfl rfl)
  | sentForTurn => exact .of_beginTurn (underway.record rfl rfl)
  | sentForDrain => exact .of_moveTo (underway.record rfl rfl) rfl
  | unreadable | crowded | hungUp | linkFailed => exact .of_close setup underway
  | drained | idled => exact .of_beginTurn underway
  | handled stage reads follows => exact .of_packetCase setup underway follows
  | received => exact .of_moveTo (underway.record rfl rfl) rfl
  | pinging | requested | disconnecting => exact .of_transmit setup underway

/-- Calls beside the task change nothing that an attempt tells. -/
theorem Recounted.call (recounted : Recounted before world) (busy : world.stage.isBusy = true)
    (request : Call) : Recounted before (world.call request).2 := by
  have called : Underway before (world.call request).2 :=
    (recounted.1 busy).grow (world.grows_call request) (Handle.perform_phase _ _) rfl
      (by simp [connAck?])
  refine ⟨fun _ => called, fun ended => ?_⟩
  exact absurd (busy.symm.trans ended) nofun

theorem Recounted.beside (recounted : Recounted before world) (left : world.Beside after) :
    Recounted before after := by
  unfold Recounted Underway World.Grows at recounted ⊢
  rwa [left.isBusy_eq, left.trace, left.handle]

/-- Every attempt is recounted as far as it has come. -/
theorem Attempt.recounted (attempt : setup.Attempt before world) : Recounted before world := by
  refine attempt.step_induction setup (motive := Recounted before) ?_ ?_ ?_ ?_
  · exact fun due begins => .of_beginCase setup begins
  · exact fun busy recounted taken => .of_stepCase setup busy (recounted.1 busy) taken
  · exact fun request busy recounted => recounted.call busy request
  · exact fun _ recounted left => recounted.beside left

/-- The events of an attempt that is over are a word of `EventKind.attempt`, and those of
one that is under way the beginning of one. The connection is told exactly when the first
answer of the broker accepts it, and then at once. Every event is raised in the phase
that it tells of, and whenever the handler looks, that is the phase which it sees. -/
theorem Attempt.events_form_word (attempt : setup.Attempt before world) :
    Told (if world.stage.isBusy then EventKind.underway else EventKind.attempt)
        (world.since before) ∧
      ∀ event (raising : World σ ν) phase,
        phase ∈ (setup.handler.react event raising.handlerState).phases raising.handle →
          ∃ left, raising.Grows (.raised event phase :: left) (setup.raise event raising) := by
  constructor
  · obtain ⟨underway, ended⟩ := attempt.recounted
    cases busy : world.stage.isBusy with
    | true =>
      obtain ⟨entries, grows, truthful, heard⟩ := underway busy
      rw [if_pos rfl, grows.since_eq]
      exact heard.told truthful
    | false =>
      obtain ⟨entries, grows, told⟩ := ended busy
      rw [if_neg nofun, grows.since_eq]
      exact told
  · intro event raising phase seen
    rw [Reaction.phase_of_mem_phases _ seen]
    exact ⟨_, setup.grows_raise event raising⟩

/-- The broker accepts a session and hangs up. -/
theorem Attempt.greeter_events :
    Told EventKind.attempt
        ((greeter.play .asked (.step :: Move.shortSession)).since World.asked) ∧
      kinds ((greeter.play .asked (.step :: Move.shortSession)).since World.asked) =
        [.connecting, .connected, .ready, .disconnected] := by
  have told := (Attempt.events_form_word greeter greeter_shortSession).1
  have ended : (greeter.play .asked (.step :: Move.shortSession)).stage.isBusy = false := by
    decide +kernel
  rw [ended] at told
  exact ⟨told, by decide +kernel⟩

end Setup

end Uplink
