import Uplink.Proofs.Backend.Acts
import Uplink.Proofs.Cloud.Conversation
import Uplink.Proofs.Cloud.Sends

/-!
# What the wrapper conveys

An application that reaches the backend through its wrapper only can neither subscribe nor
get in front of the translator: when the broker accepts a session, the queue is empty, so the
subscription to the configuration is accepted and is the first request of the session.

`Wrapper.Conducts` is an attempt during which the application asks its wrapper, from outside
and on events, with the list of what it asked. `Entry.Faced` is the shape that the entries of
such an attempt have. Together with `Attempt.served`, the order in which the backend serves
requests, it gives `World.Conveyed`.
-/

namespace Uplink

/-- A subscription is accepted in a session that nothing is queued for. -/
theorem Handle.perform_subscribe_of_empty {handle : Handle} (topic : Topic)
    (accepts : handle.phase.acceptsRequests = true) (empty : handle.requests = []) :
    (handle.perform (.subscribe topic.text)).1 = .ok () := by
  have taken : Topic.ofText topic.text = .ok topic := dif_pos topic.fits
  have free : ([] : List Request).length < Limits.queuedRequests := by decide
  simp only [perform, attempt, subscribe, accepts, taken, enqueue, empty, free, if_true]
  rfl

/-- The message that a packet publishes. -/
def Outbound.message? : Outbound → Option Message
  | .publish message => some ⟨message.topic, message.payload, message.qos⟩
  | _ => none

namespace Wrapper

variable {σ ν : Type} {wrapper : Wrapper} {setup : Setup σ (Asked ⊕ ν)}
  {before world : World σ (Asked ⊕ ν)} {asked : List Asked}

/-- The requests of a session: the subscription to the configuration, and then the sends. -/
def packets (id : String) (sends : List Message) : List Outbound :=
  .subscribe ⟨1, [(id ++ "/cfg", .atLeastOnce)]⟩ ::
    (sends.map Message.packet).mapIdx fun index packet => packet (requestId (index + 1))

/-- The worlds of an attempt in which the backend is called through the wrapper only, with what
the application has asked so far: from outside the task, and while it was told an event. -/
inductive Conducts (wrapper : Wrapper) (setup : Setup σ (Asked ⊕ ν))
    (before : World σ (Asked ⊕ ν)) : World σ (Asked ⊕ ν) → List Asked → Prop where
  | begun (due : before.AttemptDue) :
      Conducts wrapper setup before (setup.move before .step)
        (((setup.move before .step).since before).filterMap Entry.asked?)
  /-- The application asks from outside the task. -/
  | asked {world : World σ (Asked ⊕ ν)} {asked : List Asked}
      (earlier : Conducts wrapper setup before world asked)
      (underway : world.stage.isBusy = true) (request : CloudCall) :
      Conducts wrapper setup before (wrapper.perform world request).2
        (asked ++ [⟨request, (wrapper.perform world request).1⟩])
  /-- Something else happens, a step of the task included. -/
  | moved {world : World σ (Asked ⊕ ν)} {asked : List Asked}
      (earlier : Conducts wrapper setup before world asked)
      (underway : world.stage.isBusy = true) {move : Move}
      (uncalled : ∀ request, move ≠ .call request) :
      Conducts wrapper setup before (setup.move world move)
        (asked ++ ((setup.move world move).since world).filterMap Entry.asked?)

theorem Conducts.attempt (conducts : wrapper.Conducts setup before world asked) :
    setup.Attempt before world := by
  induction conducts with
  | begun due => exact .begun due
  | @asked world _ earlier underway request ih =>
    rcases perform_cases setup world request with same | ⟨call, called⟩
    · rwa [same]
    · rw [called]
      exact ih.continued underway _
  | moved earlier underway uncalled ih => exact ih.continued underway _

/-- An attempt goes on as long as it is under way. -/
theorem Conducts.play (conducts : wrapper.Conducts setup before world asked) {moves : List Move}
    (uncalled : ∀ move ∈ moves, ∀ request, move ≠ .call request)
    (underway : setup.underwayThrough world moves = true) :
    wrapper.Conducts setup before (setup.play world moves)
      (asked ++ ((setup.play world moves).since world).filterMap Entry.asked?) := by
  induction moves generalizing world asked with
  | nil =>
    have nothing : world.since world = [] := (World.Grows.refl world).since_eq
    rwa [Setup.play_nil, nothing, List.filterMap_nil, List.append_nil]
  | cons move moves ih =>
    simp only [Setup.underwayThrough, Bool.and_eq_true] at underway
    have moved := conducts.moved underway.1 (uncalled move List.mem_cons_self)
    have further := ih moved (fun other isOther => uncalled other (List.mem_cons_of_mem _ isOther))
      underway.2
    have grows := (setup.move_evolves world move).grows.append
      (setup.play_evolves (setup.move world move) moves).grows
    rwa [Setup.play_cons, grows.since_eq, List.filterMap_append, ← List.append_assoc]

end Wrapper

namespace Entry

variable {ν : Type} {entries more earlier later : List (Entry ν)} {asked further : List Asked}
  {wrapper : Wrapper} {id : String}

/-! ## The shape of an attempt -/

/-- Some entries realize what was asked, but for the acceptance of a session: there, the
translator subscribes. -/
inductive Faced (wrapper : Wrapper) (entries : List (Entry ν)) (asked : List Asked) : Prop where
  | unaccepted (realizes : Realizes wrapper entries asked)
  | accepted {earlier later : List (Entry ν)} {askedBefore askedBehind : List Asked}
      (split : entries = earlier ++ .raised .connected .connected ::
        .called (.subscribe wrapper.topics.cfg.text) (.ok ()) :: .raised .ready .ready :: later)
      (log : asked = askedBefore ++ askedBehind)
      (before : Realizes wrapper earlier askedBefore)
      (behind : Realizes wrapper later askedBehind)

theorem Faced.append (faced : Faced wrapper entries asked)
    (realizes : Realizes wrapper more further) :
    Faced wrapper (entries ++ more) (asked ++ further) := by
  cases faced with
  | unaccepted soFar => exact .unaccepted (soFar.append realizes)
  | accepted split log before behind =>
    exact .accepted (by simp [split]) (by simp [log]) before (behind.append realizes)

/-- The acceptance of a session adds no send to those that were asked for. -/
theorem Faced.sent_eq (faced : Faced wrapper entries asked) (serves : wrapper.Serves id) :
    entries.filterMap sent? = asked.filterMap (Asked.sent? id) := by
  cases faced with
  | unaccepted realizes => exact realizes.sent_eq serves
  | @accepted earlier later askedBefore askedBehind split log before behind =>
    rw [split, log, List.filterMap_append, List.filterMap_append, ← before.sent_eq serves,
      ← behind.sent_eq serves]
    rfl

/-! ## What it comes to -/

/-- What was sent can be read off what is owed. -/
theorem filterMap_sent?_eq (entries : List (Entry ν)) :
    entries.filterMap sent? =
      (entries.filterMap owed?).filterMap fun packet => (packet 0).message? := by
  rw [List.filterMap_filterMap]
  refine List.filterMap_congr fun entry _ => ?_
  cases entry with
  | called request answer => cases request <;> cases answer <;> rfl
  | raised | opened | received | handled | handed | aborted | returned | noted => rfl

/-- Where nothing is subscribed to, packets are owed to sends only. -/
theorem filterMap_owed?_of_unsubscribed
    (unsubscribed : ∀ topic answer, .called (.subscribe topic) answer ∉ entries) :
    entries.filterMap owed? = (entries.filterMap sent?).map Message.packet := by
  rw [List.map_filterMap]
  refine List.filterMap_congr fun entry isEntry => ?_
  cases entry with
  | called request answer =>
    cases request with
    | subscribe topic => exact absurd isEntry (unsubscribed topic answer)
    | connect | disconnect | publish => cases answer <;> rfl
  | raised | opened | received | handled | handed | aborted | returned | noted => rfl

/-- The session behind the subscription to the configuration. -/
theorem inSession_of_accepted (unaccepted : .connected ∉ earlier.filterMap event?) :
    inSession (earlier ++ .raised .connected .connected ::
        .called (.subscribe wrapper.topics.cfg.text) (.ok ()) :: .raised .ready .ready :: later) =
      .raised .connected .connected :: .called (.subscribe wrapper.topics.cfg.text) (.ok ()) ::
        .raised .ready .ready :: later.takeWhile (misses .disconnected) := by
  rw [inSession, List.dropWhile_append_of_pos (misses_of_unraised unaccepted)]
  rfl

/-- As soon as a session is accepted, its configuration is subscribed to. -/
theorem Faced.subscribed (faced : Faced wrapper entries asked) (serves : wrapper.Serves id)
    (told : .connected ∈ entries.filterMap event?) : ∃ earlier later, entries = earlier ++
      .raised .connected .connected :: .called (.subscribe (id ++ "/cfg")) (.ok ()) :: later := by
  cases faced with
  | unaccepted realizes => exact absurd told realizes.unaccepted.1
  | @accepted earlier later _ _ split => exact ⟨earlier, _, serves.cfg ▸ split⟩

/-- There is no other subscription, and this one is not refused. -/
theorem Faced.unrefused (faced : Faced wrapper entries asked) (serves : wrapper.Serves id)
    {topic : String} {answer : Except BackendError Unit}
    (isCall : .called (.subscribe topic) answer ∈ entries) :
    topic = id ++ "/cfg" ∧ answer = .ok () := by
  cases faced with
  | unaccepted realizes => exact absurd isCall (realizes.unsubscribed serves topic answer)
  | accepted split _ before behind =>
    rw [split] at isCall
    simp only [List.mem_append, List.mem_cons, reduceCtorEq, false_or] at isCall
    rcases isCall with isEarlier | isSubscription | isLater
    · exact absurd isEarlier (before.unsubscribed serves topic answer)
    · cases isSubscription
      exact ⟨serves.cfg, rfl⟩
    · exact absurd isLater (behind.unsubscribed serves topic answer)

section

variable (faced : Faced wrapper entries asked) (serves : wrapper.Serves id)
  (within : (inSession entries).filterMap owed? = entries.filterMap owed?)

include faced serves within

/-- When only calls of the session are owed something, the publishes that it accepts are the
sends that the wrapper accepts. -/
theorem Faced.recorded :
    (inSession entries).filterMap sent? = asked.filterMap (Asked.sent? id) := by
  rw [filterMap_sent?_eq, within, ← filterMap_sent?_eq, faced.sent_eq serves]

/-- Then an attempt owes the subscription to the configuration and the accepted sends, or
nothing when no session was accepted. -/
theorem Faced.owed :
    .ready ∈ entries.filterMap event? ∧ numbered ((inSession entries).filterMap owed?) =
        Wrapper.packets id (asked.filterMap (Asked.sent? id)) ∨
      .ready ∉ entries.filterMap event? ∧ (inSession entries).filterMap owed? = [] ∧
        asked.filterMap (Asked.sent? id) = [] := by
  have recorded := faced.recorded serves within
  cases faced with
  | unaccepted realizes =>
    have session : inSession entries = [] := inSession_of_unconnected realizes.unaccepted.1
    rw [← recorded, session]
    exact .inr ⟨realizes.unaccepted.2, rfl, rfl⟩
  | @accepted earlier later askedBefore askedBehind split log before behind =>
    let rest : List (Entry ν) := later.takeWhile (misses .disconnected)
    have session : inSession entries = .raised .connected .connected ::
        .called (.subscribe wrapper.topics.cfg.text) (.ok ()) :: .raised .ready .ready :: rest :=
      split ▸ inSession_of_accepted before.unaccepted.1
    have unsubscribed : ∀ topic answer, .called (.subscribe topic) answer ∉ rest :=
      fun topic answer isEntry => behind.unsubscribed serves topic answer
        ((List.takeWhile_sublist _).subset isEntry)
    have sends : rest.filterMap sent? = asked.filterMap (Asked.sent? id) := by
      rw [← recorded, session]
      rfl
    have owed : (inSession entries).filterMap owed? =
        (fun packetId => .subscribe ⟨packetId, [(id ++ "/cfg", .atLeastOnce)]⟩) ::
          (asked.filterMap (Asked.sent? id)).map Message.packet := by
      rw [session, ← sends, ← filterMap_owed?_of_unsubscribed unsubscribed, ← serves.cfg]
      rfl
    refine .inl ⟨by simp [split, event?], ?_⟩
    rw [owed, numbered, List.mapIdx_cons]
    rfl

end

end Entry

open Entry

/-- What an attempt hands to the link for an application, with what it is about to hand, when
the application asked for something. -/
structure World.Conveyed {σ ν : Type} (world : World σ ν) (id : String)
    (entries : List (Entry ν)) (asked : List Asked) : Prop where
  /-- As soon as the broker has accepted the session, its configuration is subscribed to. -/
  subscribed : .connected ∈ entries.filterMap event? → ∃ earlier later, entries = earlier ++
    .raised .connected .connected :: .called (.subscribe (id ++ "/cfg")) (.ok ()) :: later
  /-- Nothing else is subscribed to, and this is not refused. -/
  unrefused : ∀ topic answer, .called (.subscribe topic) answer ∈ entries →
    topic = id ++ "/cfg" ∧ answer = .ok ()
  /-- The publishes that the session accepts are the sends that the wrapper accepts. -/
  recorded : (inSession entries).filterMap sent? = asked.filterMap (Asked.sent? id)
  /-- A session hands over this subscription and then the accepted sends, in their order. -/
  in_order : .ready ∈ entries.filterMap event? →
    entries.filterMap request? ++ world.stage.inFlight <+:
      Wrapper.packets id (asked.filterMap (Asked.sent? id))
  /-- While it lasts, those that it has not handed over are queued. -/
  accounted : .ready ∈ entries.filterMap event? → world.stage.isBusy = true →
    (entries.filterMap request? ++ world.stage.inFlight).length + world.handle.requests.length =
      (Wrapper.packets id (asked.filterMap (Asked.sent? id))).length
  /-- On the wire a send has no identifier. -/
  unnumbered : ∀ message ∈ asked.filterMap (Asked.sent? id), ∀ packetId capacity,
    (message.packet packetId).encode capacity =
      (Outbound.publish ⟨message.topic, message.payload, .atMostOnce, none, false, false⟩).encode
        capacity
  /-- Without a session nothing is handed over, and no send is accepted. -/
  unsent : .ready ∉ entries.filterMap event? →
    entries.filterMap request? ++ world.stage.inFlight = [] ∧
      asked.filterMap (Asked.sent? id) = []
  framed : ∀ entry ∈ entries, entry.Framed

namespace Setup

open World

variable {σ ν : Type} {wrapper : Wrapper} {id : String} {application : Application σ ν}
  {setup : Setup σ (Asked ⊕ ν)} {before world after : World σ (Asked ⊕ ν)} {asked : List Asked}
  {handlerState : σ} {opens : List Outcome} {history : List Move}

/-- What an attempt that began in `before` has recorded has the shape of one through the
wrapper, in which some requests were asked. -/
def FacedSince (wrapper : Wrapper) (before world : World σ (Asked ⊕ ν)) (asked : List Asked) :
    Prop :=
  ∃ entries, before.Grows entries world ∧ Faced wrapper entries asked

theorem FacedSince.append {further : List Asked} {more : List (Entry (Asked ⊕ ν))}
    (faced : FacedSince wrapper before world asked) (grows : world.Grows more after)
    (realizes : Realizes wrapper more further) :
    FacedSince wrapper before after (asked ++ further) := by
  obtain ⟨entries, growsFirst, shape⟩ := faced
  exact ⟨entries ++ more, growsFirst.append grows, shape.append realizes⟩

section

variable (wraps : wrapper.Wraps id (application.through wrapper) setup)

include wraps

/-- Behind the wrapper only the translator subscribes, and only when a session is accepted. -/
theorem upholds_of_wraps : setup.Upholds (Attests wrapper) := by
  intro event unaccepted world
  rw [remarks, wraps.handler]
  cases event with
  | connected => exact absurd rfl unaccepted
  | connecting | ready | disconnected | dataReceived => exact attests_routine _ world.handle

/-- With nothing queued, the acceptance of a session is followed by the subscription. -/
theorem exists_acceptance_of_wraps (empty : world.handle.requests = []) :
    ∃ remarks, Attests wrapper remarks ∧
      setup.acceptance world = .raised .connected .connected ::
        .called (.subscribe wrapper.topics.cfg.text) (.ok ()) ::
          .raised .ready .ready :: remarks := by
  let told : World σ (Asked ⊕ ν) := (setup.enter .connected .connected world).inPhase .ready
  refine ⟨setup.remarks .ready told, upholds_of_wraps wraps .ready nofun told, ?_⟩
  have accepted : ((world.inPhase .connected).handle.perform
      (.subscribe wrapper.topics.cfg.text)).1 = .ok () :=
    Handle.perform_subscribe_of_empty _ rfl empty
  have subscription : setup.remarks .connected (world.inPhase .connected) =
      [.called (.subscribe wrapper.topics.cfg.text) (.ok ())] := by
    rw [remarks, wraps.handler, ← accepted]
    rfl
  rw [acceptance, voice, voice, subscription]
  rfl

/-- A step keeps the shape. A session is only accepted while none was. -/
theorem FacedSince.step (faced : FacedSince wrapper before world asked)
    (attempt : setup.Attempt before world) (busy : world.stage.isBusy = true)
    (sound : world.Sound) (follows : setup.StepCase world after) :
    FacedSince wrapper before after (asked ++ (after.since world).filterMap asked?) := by
  rcases (upholds_of_wraps wraps).step habit_attests busy follows with
    ⟨more, grows, attests⟩ | ⟨connecting, answer, accepts⟩
  · rw [grows.since_eq]
    exact faced.append grows attests
  · obtain ⟨entries, grows, shape⟩ := faced
    obtain ⟨told, growsTold, -, heard⟩ := attempt.recounted.1 busy
    obtain rfl := grows.unique growsTold
    rw [connecting] at heard
    obtain ⟨-, unaccepted, -⟩ := heard
    have empty : (world.record (.handled (.connAck answer))).handle.requests = [] :=
      sound.orderly.1 (by rw [connecting]; rfl)
    obtain ⟨remarks, attests, acceptance⟩ := exists_acceptance_of_wraps wraps empty
    rw [acceptance] at accepts
    rw [accepts.since_eq]
    cases shape with
    | unaccepted realizes =>
      have handled : Realizes wrapper [(.handled (.connAck answer) : Entry (Asked ⊕ ν))] [] :=
        .incidental trivial .nil
      refine ⟨_, grows.append accepts, .accepted (List.append_cons _ _ _) ?_
        (realizes.append handled) attests⟩
      rw [List.append_nil]
      rfl
    | accepted split =>
      exact absurd (by simp [split, kinds, event?, Event.kind]) unaccepted

/-- Every attempt in which the backend is called through the wrapper only has that shape. -/
theorem facedSince_of_conducts (sound : before.Sound)
    (conducts : wrapper.Conducts setup before world asked) :
    FacedSince wrapper before world asked := by
  induction conducts with
  | begun due =>
    obtain ⟨entries, grows, attests⟩ :=
      (upholds_of_wraps wraps).begin habit_attests (setup.beginAttempt_cases before.prepared)
    rw [move, step_of_due setup due, Option.getD_some, grows.since_eq]
    exact ⟨entries, grows, .unaccepted attests⟩
  | @asked world _ earlier busy request faced =>
    have performed := wrapper.perform_eq_serve world request
    rw [performed]
    exact faced.append rfl (realizes_serve request world.handle)
  | @moved world asked earlier busy move uncalled faced =>
    have attempt := earlier.attempt
    generalize moved : setup.move world move = after
    cases setup.move_cases moved with
    | idled =>
      rw [(Grows.refl world).since_eq]
      exact faced.append (Grows.refl world) .nil
    | stepped follows => exact faced.step wraps attempt busy (attempt.sound sound) follows
    | called request => exact absurd rfl (uncalled request)
    | beside left =>
      have same : world.Grows [] after := left.trace
      rw [same.since_eq]
      exact faced.append same .nil

end

/-- What such an attempt hands to the link. -/
theorem conveyed_of_conducts (wraps : wrapper.Wraps id (application.through wrapper) setup)
    (conducts : wrapper.Conducts setup (setup.play (.initial handlerState opens) history) world
      asked) :
    world.Conveyed id (world.since (setup.play (.initial handlerState opens) history)) asked := by
  have attempt := conducts.attempt
  have serves := wraps.serves
  have served := attempt.served
  obtain ⟨entries, grows, faced⟩ :=
    facedSince_of_conducts wraps (setup.sound_play handlerState opens history) conducts
  rw [← grows.since_eq] at faced
  have inOrder := served.in_order
  constructor
  case subscribed => exact faced.subscribed serves
  case unrefused => exact fun topic answer => faced.unrefused serves
  case recorded => exact faced.recorded serves attempt.owed_inSession
  case in_order =>
    intro ready
    rcases faced.owed serves attempt.owed_inSession with ⟨-, owed⟩ | ⟨unready, -⟩
    · rwa [owed] at inOrder
    · exact absurd ready unready
  case accounted =>
    intro ready busy
    rcases faced.owed serves attempt.owed_inSession with ⟨-, owed⟩ | ⟨unready, -⟩
    · rw [attempt.accounted busy, ← owed, numbered, List.length_mapIdx, attempt.owed_inSession]
    · exact absurd ready unready
  case unnumbered =>
    exact fun message isSent => Message.encode_packet (Asked.qos_of_sent isSent)
  case unsent =>
    intro unready
    rcases faced.owed serves attempt.owed_inSession with ⟨ready, -⟩ | ⟨-, unowed, unsent⟩
    · exact absurd ready unready
    · rw [unowed] at inOrder
      exact ⟨List.prefix_nil.mp inOrder, unsent⟩
  case framed => exact served.framed

/-- In every attempt of a device whose application has nothing but its wrapper, whatever it
asks from outside the task and on events: the acceptance of a session is followed by the
subscription to the configuration, which is never refused, and what the session hands to the
link is this subscription and then the sends that the wrapper accepted, in their order and
each at most once. What the application is told of the attempt is a word of its shape, with
every message as it was delivered. What the application asks for goes to the backend as the
call that it is, a send as the publish of its message on the topic for it, and the answer is
that of the backend. -/
theorem conveys_sends {clientId : ClientId} {config : BackendConfig} {stateGet : StateGetPolicy}
    (made : Wrapper.init clientId config stateGet (application.through wrapper) =
      .ok (wrapper, setup))
    (conducts : wrapper.Conducts setup (setup.play (.initial handlerState opens) history) world
      asked) :
    world.Conveyed clientId.text (world.since (setup.play (.initial handlerState opens) history))
        asked ∧
      Translator.Relayed
        (if world.stage.isBusy then CloudEventKind.underway else CloudEventKind.attempt)
        (world.since (setup.play (.initial handlerState opens) history)) ∧
      (∀ event state, setup.handler.react event state =
        match Translator.forward? event with
        | some told => (application.react told state).through wrapper
        | none => .call (.subscribe (clientId.text ++ "/cfg")) fun _ => .done state) ∧
      ∀ (request : CloudCall) (other : World σ (Asked ⊕ ν)), wrapper.perform other request =
        match request.backendCall? clientId.text with
        | some call => ((other.call call).1.mapError .backend, (other.call call).2)
        | none => (wrapper.stateGet.answer, other) := by
  have wraps := Wrapper.wraps_of_init made
  refine ⟨conveyed_of_conducts wraps conducts, conducts.attempt.relayed, ?_, ?_⟩
  · intro event state
    rw [wraps.handler, ← wraps.serves.cfg]
    rfl
  · intro request other
    rw [← wraps.serves.call?_eq_backendCall?]
    rfl

end Setup

/-! ## A session of a tracker -/

/-- An application that answers every message with a report, for examples. -/
def Application.tracker : Application Nat Unit where
  react
    | .dataReceived _, count => .ask (.dataSend [7]) fun _ => .done (count + 1)
    | .connecting, count | .connected, count | .disconnected, count => .done count

/-- The wrapper of the device with the identifier `dev`. -/
def Wrapper.tracker : Wrapper where
  clientId := ⟨"dev", by decide, by decide, by decide⟩
  topics := ⟨⟨"dev/cfg", by decide⟩, ⟨"dev/batch", by decide⟩, ⟨"dev/messages", by decide⟩⟩
  stateGet := .noOp

/-- Its polling task. -/
def Setup.tracker : Setup Nat (Asked ⊕ Unit) where
  sessionId := ⟨"nrf-dev", by decide⟩
  config := { broker := { hostname := "broker" } }
  handler := Translator.handler Wrapper.tracker.topics.cfg (Application.tracker.through .tracker)

/-- The world in which the device has asked to be connected. -/
def World.summoned : World Nat (Asked ⊕ Unit) :=
  Setup.tracker.play (.initial 0 []) [.ask .forever, .step, .call .connect]

/-- The broker accepts a session. -/
def Move.admission : List Move := .deliver (.data [0x20, 2, 0, 0]) :: .replicate 5 .step

/-- The broker sends a message, takes what the device sends, and hangs up. -/
def Move.messageAndEnd : List Move :=
  .deliver (.data [0x30, 4, 0, 1, 0x31, 9]) :: .replicate 7 .step ++ [.deliver .close, .step, .step]

/-- The world in which the session is accepted. -/
def World.admitted : World Nat (Asked ⊕ Unit) :=
  Setup.tracker.play (Setup.tracker.move .summoned .step) Move.admission

/-- The world after a session in which the device has sent a batch. -/
def World.tracked : World Nat (Asked ⊕ Unit) :=
  Setup.tracker.play (Wrapper.tracker.perform .admitted (.batchSend [1, 2])).2 Move.messageAndEnd

/-- In this session the device asks for the batch, and its application for a report. -/
theorem Wrapper.tracker_conducts : ∃ asked, tracker.Conducts .tracker .summoned .tracked asked ∧
    asked.filterMap (Asked.sent? "dev") =
      [⟨"dev/batch", [1, 2], .atMostOnce⟩, ⟨"dev/messages", [7], .atMostOnce⟩] := by
  have begun : tracker.Conducts .tracker .summoned (Setup.tracker.move .summoned .step) _ :=
    .begun (.inr (by decide +kernel))
  have admitted : tracker.Conducts .tracker .summoned .admitted _ :=
    begun.play (by simp [Move.admission, List.replicate]) (by decide +kernel)
  have sent := admitted.asked (by decide +kernel) (.batchSend [1, 2])
  have tracked : tracker.Conducts .tracker .summoned .tracked _ :=
    sent.play (by simp [Move.messageAndEnd, List.replicate]) (by decide +kernel)
  exact ⟨_, tracked, by decide +kernel⟩

/-- The batch and the report go out behind the subscription, and the application is told of
the message. -/
theorem Setup.tracker_conveys : ∃ asked,
    (World.tracked.Conveyed "dev" (World.tracked.since .summoned) asked ∧
      Translator.Relayed CloudEventKind.attempt (World.tracked.since .summoned)) ∧
      asked.filterMap (Asked.sent? "dev") =
        [⟨"dev/batch", [1, 2], .atMostOnce⟩, ⟨"dev/messages", [7], .atMostOnce⟩] ∧
      (World.tracked.since .summoned).filterMap Entry.request? =
        Wrapper.packets "dev"
          [⟨"dev/batch", [1, 2], .atMostOnce⟩, ⟨"dev/messages", [7], .atMostOnce⟩] ∧
      Translator.told (World.tracked.since .summoned) =
        [.connecting, .connected, .dataReceived [9], .disconnected] := by
  obtain ⟨asked, conducts, sends⟩ := Wrapper.tracker_conducts
  have made : Wrapper.init Wrapper.tracker.clientId tracker.config .noOp
      (Application.tracker.through Wrapper.tracker) = .ok (Wrapper.tracker, tracker) := rfl
  have rested : World.tracked.stage.isBusy = false := by decide +kernel
  have attempted : Wrapper.tracker.Conducts tracker
      (tracker.play (.initial 0 []) [.ask .forever, .step, .call .connect]) .tracked asked :=
    conducts
  obtain ⟨conveyed, relayed, -⟩ := conveys_sends made attempted
  rw [rested, if_neg nofun] at relayed
  exact ⟨asked, ⟨conveyed, relayed⟩, sends, by decide +kernel, by decide +kernel⟩

end Uplink
