import Uplink.Proofs.Backend.Moments

/-!
# The admission of requests

Publishing and subscribing queue one request or change nothing, and `Handle.objections` says
which. Requests wait only while a session can take them: the queue is empty at every moment
before a session is accepted, and every accepted request lies behind the acceptance of a
session whose end was not told yet.
-/

namespace Uplink

/-! ## Objections -/

/-- A reason to refuse, if a condition is not met. -/
def BackendError.ifNot (reason : BackendError) (condition : Prop) [Decidable condition] :
    List BackendError :=
  if condition then [] else [reason]

/-- A result is refused for the first objection, and only for one. -/
def Judged {α : Type} (result : Except BackendError α) : List BackendError → Prop
  | [] => ∃ value, result = .ok value
  | reason :: _ => result = .error reason

namespace Judged

variable {α β : Type} {result : Except BackendError α} {objections others : List BackendError}
  {reason : BackendError} {condition : Prop} [Decidable condition]

/-- Where a condition is judged first, the others count once it is met. -/
theorem guard (unmet : ¬ condition → result = .error reason)
    (met : condition → Judged result others) :
    Judged result (reason.ifNot condition ++ others) := by
  unfold BackendError.ifNot
  split
  · next holds => exact met holds
  · next fails => exact unmet fails

theorem of_condition (unmet : ¬ condition → result = .error reason)
    (met : condition → ∃ value, result = .ok value) :
    Judged result (reason.ifNot condition) := by
  rw [← List.append_nil (reason.ifNot condition)]
  exact guard unmet met

/-- What is judged later does not matter to what was refused before. -/
theorem bind {next : α → Except BackendError β} (first : Judged result objections)
    (second : ∀ value, Judged (next value) others) :
    Judged (result >>= next) (objections ++ others) := by
  cases objections with
  | nil =>
    obtain ⟨value, rfl⟩ := first
    exact second value
  | cons reason rest =>
    cases (show result = .error reason from first)
    rfl

end Judged

/-- What stands against a request with a topic and a payload, in the order in which it is told. A
subscription has no payload. -/
def Handle.objections (handle : Handle) (topic : String) (payload : Bytes) : List BackendError :=
  BackendError.notConnected.ifNot (handle.phase = .connected ∨ handle.phase = .ready) ++
    (BackendError.topicTooLong.ifNot (topic.utf8ByteSize ≤ 128) ++
      BackendError.payloadTooLarge.ifNot (payload.length ≤ 1024) ++
      BackendError.queueFull.ifNot (handle.requests.length < 4))

theorem Phase.acceptsRequests_iff {phase : Phase} :
    phase.acceptsRequests = true ↔ phase = .connected ∨ phase = .ready := by
  cases phase <;> simp [acceptsRequests]

theorem Topic.judged (text : String) :
    Judged (ofText text) (BackendError.topicTooLong.ifNot (text.utf8ByteSize ≤ 128)) :=
  .of_condition (fun long => dif_neg long) fun short => ⟨⟨text, short⟩, dif_pos short⟩

theorem PublishRequest.judged (message : Message) :
    Judged (ofMessage message)
      (BackendError.topicTooLong.ifNot (message.topic.utf8ByteSize ≤ 128) ++
        BackendError.payloadTooLarge.ifNot (message.payload.length ≤ 1024)) := by
  refine (Topic.judged message.topic).bind fun topic => ?_
  exact .of_condition (fun large => dif_neg large) fun small => ⟨_, dif_pos small⟩

namespace Handle

theorem judged_enqueue (handle : Handle) (request : Request) :
    Judged (handle.enqueue request) (BackendError.queueFull.ifNot (handle.requests.length < 4)) :=
  .of_condition (fun full => if_neg full) fun room => ⟨_, if_pos room⟩

theorem judged_publish (handle : Handle) (message : Message) :
    Judged (handle.publish message) (handle.objections message.topic message.payload) := by
  refine .guard (fun closed => ?_) fun opened => ?_
  · exact if_neg (mt Phase.acceptsRequests_iff.mp closed)
  · rw [publish, if_pos (Phase.acceptsRequests_iff.mpr opened)]
    exact (PublishRequest.judged message).bind fun request => handle.judged_enqueue _

theorem judged_subscribe (handle : Handle) (topic : String) :
    Judged (handle.subscribe topic) (handle.objections topic []) := by
  refine .guard (fun closed => ?_) fun opened => ?_
  · exact if_neg (mt Phase.acceptsRequests_iff.mp closed)
  · rw [subscribe, if_pos (Phase.acceptsRequests_iff.mpr opened)]
    have payloadless : BackendError.payloadTooLarge.ifNot (([] : Bytes).length ≤ 1024) = [] := rfl
    rw [payloadless, List.append_nil]
    exact (Topic.judged topic).bind fun owned => handle.judged_enqueue _

end Handle

/-! ## Atomic calls -/

/-- A request has copies of all parts of a call. -/
def Request.Copies : Request → Call → Prop
  | publish copy, .publish message =>
    copy.topic.text = message.topic ∧ copy.payload = message.payload ∧ copy.qos = message.qos
  | subscribe copy, .subscribe topic => copy.text = topic
  | _, _ => False

namespace Handle

/-- A call is done in full or not at all: without objections a copy of it is queued behind
the other requests, and else the first objection is all that comes of it. -/
structure Atomic (handle : Handle) (call : Call) (objections : List BackendError) : Prop where
  accepted : (handle.perform call).1 = .ok () ↔ objections = []
  queued : objections = [] → ∃ request : Request, request.Copies call ∧
    (handle.perform call).2 = { handle with requests := handle.requests ++ [request] }
  refused : ∀ {reason rest}, objections = reason :: rest →
    handle.perform call = (.error reason, handle)

theorem Atomic.of_judged {handle : Handle} {call : Call} {objections : List BackendError}
    (judged : Judged (handle.attempt call) objections)
    (queues : ∀ {after}, handle.attempt call = .ok after → ∃ request : Request,
      request.Copies call ∧ after = { handle with requests := handle.requests ++ [request] }) :
    handle.Atomic call objections := by
  cases objections with
  | nil =>
    obtain ⟨after, attempted⟩ := judged
    have performed : handle.perform call = (.ok (), after) := by simp only [perform, attempted]
    obtain ⟨request, copies, rfl⟩ := queues attempted
    constructor
    · simp [performed]
    · exact fun _ => ⟨request, copies, congrArg Prod.snd performed⟩
    · intro reason rest isFirst
      cases isFirst
  | cons reason rest =>
    have attempted : handle.attempt call = .error reason := judged
    have performed : handle.perform call = (.error reason, handle) := by
      simp only [perform, attempted]
    constructor
    · simp [performed]
    · intro unopposed
      cases unopposed
    · intro first others isFirst
      cases isFirst
      exact performed

theorem atomic_publish (handle : Handle) (message : Message) :
    handle.Atomic (.publish message) (handle.objections message.topic message.payload) := by
  refine .of_judged (handle.judged_publish message) fun attempted => ?_
  obtain ⟨-, request, copied, rfl⟩ := publish_eq_ok attempted
  exact ⟨.publish request, copied, rfl⟩

theorem atomic_subscribe (handle : Handle) (topic : String) :
    handle.Atomic (.subscribe topic) (handle.objections topic []) := by
  refine .of_judged (handle.judged_subscribe topic) fun attempted => ?_
  obtain ⟨-, owned, copied, rfl⟩ := subscribe_eq_ok attempted
  exact ⟨.subscribe owned, copied, rfl⟩

/-- Only in a session are requests accepted. -/
theorem accepts_of_accepted {handle : Handle} {call : Call}
    (accepted : (handle.perform call).1 = .ok ()) (packet : call.packet? ≠ none) :
    handle.phase.acceptsRequests = true := by
  by_contra rejects
  have unowed := owed?_perform_of_rejects (Bool.not_eq_true _ ▸ rejects) call
  rw [accepted] at unowed
  exact packet unowed

end Handle

/-- A payload is judged before the queue. -/
example :
    (({ phase := .ready, requests := .replicate 4 (.subscribe ⟨"news", by decide⟩) } :
      Handle).perform (.publish ⟨"news", .replicate 1025 0, .atMostOnce⟩)).1 =
        .error .payloadTooLarge := by
  decide +kernel

/-! ## The queue before a session -/

/-- At every moment before a session is accepted, no request waits. -/
theorem Setup.Moment.requests_eq_nil {σ ν : Type} {setup : Setup σ ν} {handlerState : σ}
    {opens : List Outcome} {history : List (Entry ν)} {handle : Handle}
    (moment : setup.Moment (.initial handlerState opens) history handle)
    (early : handle.phase = .idle ∨ handle.phase = .connecting) : handle.requests = [] := by
  have rejects : handle.phase.acceptsRequests = false := by
    rcases early with idle | connecting
    · rw [idle]
      rfl
    · rw [connecting]
      rfl
  cases moment with
  | between moves => exact (setup.sound_play handlerState opens moves).orderly.1 rejects
  | @within moves last phase event _ _ tells meets =>
    have sound := setup.sound_play handlerState opens moves
    have samePhase : handle.phase = phase := meets.phase
    rw [meets.requests (samePhase ▸ rejects)]
    cases tells with
    | begun due =>
      have empty := due.requests_eq_nil sound
      rwa [← World.prepared_requests, ← World.claimed_requests] at empty
    | delivered => exact sound.orderly.1 (samePhase ▸ rejects)
    | accepted | ready | ended =>
      rw [samePhase] at early
      simp at early

/-! ## Requests and the acceptance of sessions -/

namespace Entry

variable {ν : Type} {entries more : List (Entry ν)}

/-- The acceptance of a session was told, and its end was not. -/
def Seated (entries : List (Entry ν)) : Prop :=
  ∃ before during, entries = before ++ .raised .connected .connected :: during ∧
    .disconnected ∉ during.filterMap event?

theorem Seated.append (seated : Seated entries) (lasts : .disconnected ∉ more.filterMap event?) :
    Seated (entries ++ more) := by
  obtain ⟨before, during, rfl, untold⟩ := seated
  refine ⟨before, during ++ more, by simp, ?_⟩
  rw [List.filterMap_append, List.mem_append]
  exact not_or.mpr ⟨untold, lasts⟩

/-- Every request was accepted in a session. -/
def Admitted (entries : List (Entry ν)) : Prop :=
  ∀ earlier call later, entries = earlier ++ .called call (.ok ()) :: later →
    call.packet? ≠ none → Seated earlier

/-- Of what is added, only requests count: a session has to be there that lasts. -/
theorem Admitted.append (admitted : Admitted entries)
    (added : ∀ call, .called call (.ok ()) ∈ more → call.packet? ≠ none →
      Seated entries ∧ .disconnected ∉ more.filterMap event?) : Admitted (entries ++ more) := by
  intro earlier call later split packet
  rcases List.append_eq_append_iff.mp split with ⟨rest, rfl, isMore⟩ | ⟨rest, isEntries, isLater⟩
  · obtain ⟨seated, lasts⟩ := added call (by simp [isMore]) packet
    refine seated.append fun told => lasts ?_
    rw [isMore, List.filterMap_append]
    exact List.mem_append_left _ told
  · cases rest with
    | nil =>
      rw [List.append_nil] at isEntries
      rw [List.nil_append] at isLater
      rw [← isEntries]
      exact (added call (isLater ▸ List.mem_cons_self) packet).1
    | cons first rest =>
      obtain ⟨rfl, -⟩ := List.cons.inj isLater
      exact admitted _ _ _ isEntries packet

end Entry

/-- Requests are accepted in sessions, and only there. -/
structure World.Placed {σ ν : Type} (world : World σ ν) : Prop where
  seated : world.handle.phase.acceptsRequests = true → Entry.Seated world.history
  admitted : Entry.Admitted world.history

namespace World

variable {σ ν : Type} {world after : World σ ν} {entries : List (Entry ν)}

/-- What is neither a call nor an event does not matter. -/
theorem Placed.grow (placed : world.Placed) (grows : world.Grows entries after)
    (quiet : ∀ mark ∈ entries, mark.isCall = false ∧ mark.event? = none)
    (phase : after.handle.phase.acceptsRequests = true → after.handle.phase = world.handle.phase) :
    after.Placed := by
  constructor
  · intro accepts
    rw [phase accepts] at accepts
    rw [grows.history_eq]
    refine (placed.seated accepts).append ?_
    rw [List.filterMap_eq_nil_iff.mpr fun mark isMark => (quiet mark isMark).2]
    exact List.not_mem_nil
  · rw [grows.history_eq]
    exact placed.admitted.append fun _ isMark _ => absurd (quiet _ isMark).1 nofun

/-- A call is accepted in the session that it finds. -/
theorem Placed.call (placed : world.Placed) (request : Call) : (world.call request).2.Placed := by
  have history := (world.grows_call request).history_eq
  constructor
  · intro accepts
    rw [history]
    refine (placed.seated ?_).append List.not_mem_nil
    exact (congrArg _ (world.handle.perform_phase request)).symm.trans accepts
  · rw [history]
    refine placed.admitted.append fun call called packet => ⟨?_, List.not_mem_nil⟩
    obtain ⟨rfl, accepted⟩ := Entry.called.inj (List.mem_singleton.mp called)
    exact placed.seated (Handle.accepts_of_accepted accepted.symm packet)

end World

namespace Setup

variable {σ ν : Type} (setup : Setup σ ν) {world last : World σ ν} {phase : Phase} {event : Event}

theorem Tells.seated {setup : Setup σ ν} (tells : setup.Tells world last phase event)
    (placed : last.Placed) (accepts : phase.acceptsRequests = true) :
    Entry.Seated (last.history ++ [.raised event phase]) := by
  cases tells with
  | begun | ended => cases accepts
  | accepted => exact ⟨_, [], rfl, List.not_mem_nil⟩
  | ready =>
    refine (placed.seated ?_).append (by simp [Entry.event?])
    rw [setup.enter_phase]
    rfl
  | delivered => exact (placed.seated accepts).append (by simp [Entry.event?])

/-- The handler of an event calls in the session that the event finds or begins. -/
theorem Tells.placed {setup : Setup σ ν} (tells : setup.Tells world last phase event)
    (placed : last.Placed) : (setup.enter phase event last).Placed := by
  have history : (setup.enter phase event last).history = last.history ++
      [.raised event phase] ++ setup.remarks event (last.inPhase phase) := by
    rw [(setup.grows_enter phase event last).history_eq, List.append_assoc]
    rfl
  have lasts : .disconnected ∉
      (setup.remarks event (last.inPhase phase)).filterMap Entry.event? := by
    rw [setup.filterMap_event?_remarks]
    exact List.not_mem_nil
  constructor
  · intro accepts
    rw [setup.enter_phase] at accepts
    rw [history]
    exact (tells.seated placed accepts).append lasts
  · rw [history]
    refine (placed.admitted.append (by simp)).append fun call called packet => ⟨?_, lasts⟩
    obtain ⟨earlier, later, split⟩ := List.append_of_mem called
    obtain ⟨met, meets, accepted⟩ := Reaction.exists_meets_of_called _ split
    have accepts := Handle.accepts_of_accepted accepted packet
    rw [meets.phase] at accepts
    exact tells.seated placed accepts

/-- Nothing is accepted any more once the slot was given back. -/
theorem placed_finish (placed : last.Placed) : (finish last).Placed := by
  obtain ⟨marks, grows, quiet⟩ := exists_grows_finish last
  refine placed.grow grows quiet fun accepts => ?_
  rw [finish_handle] at accepts
  cases accepts

theorem keeps_placed (world : World σ ν) : setup.Keeps world World.Placed where
  hushed reached silent := by
    obtain ⟨marks, grows, quiet⟩ := silent.marks
    exact reached.grow grows quiet fun _ => silent.phase
  told reached tells := tells.placed reached
  finished reached _ := placed_finish reached

/-- **Requests are atomic.** A publish or a subscription is accepted exactly when nothing stands
against it, and then queues one copy of itself behind the others; refused for the first
objection, it changes nothing. At every moment of a run, in its handlers as between its moves,
no request waits while the phase is idle or connecting. Every call in the trace is answered as
the handle answers at its moment, and the accepted requests among them lie behind the acceptance
of a session whose end was not told yet. -/
theorem requests_atomic (handlerState : σ) (opens : List Outcome) :
    (∀ handle : Handle,
      (∀ message, handle.Atomic (.publish message)
        (handle.objections message.topic message.payload)) ∧
      ∀ topic, handle.Atomic (.subscribe topic) (handle.objections topic [])) ∧
    (∀ history handle, setup.Moment (.initial handlerState opens) history handle →
      handle.phase = .idle ∨ handle.phase = .connecting → handle.requests = []) ∧
    ∀ moves, setup.Attested (.initial handlerState opens)
        (setup.play (.initial handlerState opens) moves).history ∧
      Entry.Admitted (setup.play (.initial handlerState opens) moves).history := by
  refine ⟨fun handle => ⟨handle.atomic_publish, handle.atomic_subscribe⟩,
    fun _ _ moment early => moment.requests_eq_nil early,
    fun moves => ⟨setup.attested_play rfl moves, ?_⟩⟩
  have placed : (setup.play (.initial handlerState opens) moves).Placed := by
    refine Keeps.play ⟨nofun, ?_⟩ (fun _ => setup.keeps_placed _)
      (fun _ request reached => reached.call request) moves
    intro earlier call later split
    simp [World.history, World.initial] at split
  exact placed.admitted

end Setup

end Uplink
