import Uplink.Backend.Task

/-!
# Calls of the handle

What callers can do to the state that they share with the task, one call at a time and,
by induction over a reaction, for all that a handler does on an event. Only accepted
publishes and subscriptions lengthen the queue, and only the task changes the phase.
-/

namespace Uplink

/-- The packet that a call asks for, but for its identifier. -/
def Call.packet? : Call → Option (UInt16 → Outbound)
  | .publish message => some fun packetId => .publish {
      topic := message.topic, payload := message.payload, qos := message.qos, packetId }
  | .subscribe topic => some fun packetId => .subscribe ⟨packetId, [(topic, .atLeastOnce)]⟩
  | .connect | .disconnect => none

/-- The packet that is owed to an answered call: nothing, if the call was refused. -/
def Call.owed? (call : Call) : Except BackendError Unit → Option (UInt16 → Outbound)
  | .ok _ => call.packet?
  | .error _ => none

/-- The packet of a queued request, but for its identifier. -/
def Request.packet (request : Request) : UInt16 → Outbound :=
  fun packetId => Setup.requestPacket packetId request

theorem Topic.text_of_ofText {text : String} {topic : Topic} (short : ofText text = .ok topic) :
    topic.text = text := by
  unfold ofText at short
  split at short
  · cases short
    rfl
  · cases short

/-- What is taken over of a message is all of it. -/
theorem PublishRequest.parts_of_ofMessage {message : Message} {request : PublishRequest}
    (taken : ofMessage message = .ok request) :
    request.topic.text = message.topic ∧ request.payload = message.payload ∧
      request.qos = message.qos := by
  unfold ofMessage at taken
  cases short : Topic.ofText message.topic with
  | error reason => simp [short, bind, Except.bind] at taken
  | ok topic =>
    simp only [short, bind, Except.bind] at taken
    split at taken
    · cases taken
      exact ⟨Topic.text_of_ofText short, rfl, rfl⟩
    · cases taken

namespace Handle

variable {handle after : Handle}

theorem enqueue_eq_ok {request : Request} (accepted : handle.enqueue request = .ok after) :
    after = { handle with requests := handle.requests ++ [request] } := by
  unfold enqueue at accepted
  split at accepted
  · cases accepted
    rfl
  · cases accepted

/-- An accepted message is queued behind the others, with copies of its parts. -/
theorem publish_eq_ok {message : Message} (accepted : handle.publish message = .ok after) :
    handle.phase.acceptsRequests = true ∧ ∃ request : PublishRequest,
      (request.topic.text = message.topic ∧ request.payload = message.payload ∧
        request.qos = message.qos) ∧
      after = { handle with requests := handle.requests ++ [.publish request] } := by
  unfold publish at accepted
  split at accepted
  · next accepts =>
    cases taken : PublishRequest.ofMessage message with
    | error reason => simp [taken, bind, Except.bind] at accepted
    | ok request =>
      simp only [taken, bind, Except.bind] at accepted
      exact ⟨accepts, request, PublishRequest.parts_of_ofMessage taken, enqueue_eq_ok accepted⟩
  · cases accepted

/-- An accepted subscription is queued behind the others. -/
theorem subscribe_eq_ok {topic : String} (accepted : handle.subscribe topic = .ok after) :
    handle.phase.acceptsRequests = true ∧ ∃ owned : Topic, owned.text = topic ∧
      after = { handle with requests := handle.requests ++ [.subscribe owned] } := by
  unfold subscribe at accepted
  split at accepted
  · next accepts =>
    cases short : Topic.ofText topic with
    | error reason => simp [short, bind, Except.bind] at accepted
    | ok owned =>
      simp only [short, bind, Except.bind] at accepted
      exact ⟨accepts, owned, Topic.text_of_ofText short, enqueue_eq_ok accepted⟩
  · cases accepted

/-- A connection is accepted when the slot is free, and then takes it. -/
theorem connect_eq_ok (accepted : handle.connect = .ok after) :
    handle.active = false ∧ after = { handle with
      active := true, disconnectRequested := false, disconnectSignal := false,
      connectSignal := true } := by
  unfold connect claim? at accepted
  split at accepted
  · cases accepted
  · next claimed =>
    cases accepted
    split at claimed
    · cases claimed
    · next free =>
      cases claimed
      exact ⟨by simpa using free, rfl⟩

/-- What a call may have done, by the call. -/
inductive CallCase (handle : Handle) : Call → Except BackendError Unit → Handle → Prop where
  | refused {call : Call} {reason : BackendError} : CallCase handle call (.error reason) handle
  | connected (free : handle.active = false) :
      CallCase handle .connect (.ok ()) { handle with
        active := true, disconnectRequested := false, disconnectSignal := false,
        connectSignal := true }
  | disconnected (taken : handle.active = true) :
      CallCase handle .disconnect (.ok ()) { handle with
        disconnectRequested := true, disconnectSignal := true }
  | alone (free : handle.active = false) : CallCase handle .disconnect (.ok ()) handle
  | queued {call : Call} {request : Request} (accepts : handle.phase.acceptsRequests = true)
      (packet : call.packet? = some request.packet) :
      CallCase handle call (.ok ()) { handle with requests := handle.requests ++ [request] }

theorem perform_cases {call : Call} {answer : Except BackendError Unit}
    (performed : handle.perform call = (answer, after)) : handle.CallCase call answer after := by
  unfold perform at performed
  split at performed
  · next next accepted =>
    cases performed
    cases call with
    | connect =>
      obtain ⟨free, rfl⟩ := connect_eq_ok accepted
      exact .connected free
    | disconnect =>
      simp only [attempt, disconnect, Except.ok.injEq] at accepted
      split at accepted
      · next taken =>
        subst accepted
        exact .disconnected taken
      · next free =>
        subst accepted
        exact .alone (by simpa using free)
    | publish message =>
      obtain ⟨accepts, request, ⟨topic, payload, qos⟩, rfl⟩ := publish_eq_ok accepted
      refine .queued accepts ?_
      simp only [Call.packet?, ← topic, ← payload, ← qos]
      rfl
    | subscribe topic =>
      obtain ⟨accepts, owned, rfl, rfl⟩ := subscribe_eq_ok accepted
      exact .queued accepts rfl
  · cases performed
    exact .refused

/-- Calls leave the phase alone. -/
@[simp] theorem perform_phase (handle : Handle) (call : Call) :
    (handle.perform call).2.phase = handle.phase := by
  match performed : handle.perform call with
  | (answer, after) => cases perform_cases performed <;> rfl

/-- A taken slot stays taken. -/
theorem perform_active (taken : handle.active = true) (call : Call) :
    (handle.perform call).2.active = true := by
  match performed : handle.perform call with
  | (answer, after) => cases perform_cases performed <;> simp_all

/-- The queue grows by what is owed to the call. -/
theorem perform_requests (handle : Handle) (call : Call) :
    (handle.perform call).2.requests.map Request.packet =
      handle.requests.map Request.packet ++ (call.owed? (handle.perform call).1).toList := by
  match performed : handle.perform call with
  | (answer, after) =>
    cases perform_cases performed with
    | queued accepts packet => simp [Call.owed?, packet]
    | refused | connected | disconnected | alone => simp [Call.owed?, Call.packet?]

/-- In a phase that accepts no requests, no call is owed a packet. -/
theorem owed?_perform_of_rejects (rejects : handle.phase.acceptsRequests = false) (call : Call) :
    call.owed? (handle.perform call).1 = none := by
  match performed : handle.perform call with
  | (answer, after) =>
    cases perform_cases performed with
    | queued accepts packet => simp [rejects] at accepts
    | refused | connected | disconnected | alone => rfl

/-- Requests only wait in phases that accept them, and a connect request takes the slot. -/
def Orderly (handle : Handle) : Prop :=
  (handle.phase.acceptsRequests = false → handle.requests = []) ∧
    (handle.connectSignal = true → handle.active = true)

/-- Calls keep the handle orderly. -/
theorem Orderly.perform (orderly : handle.Orderly) (call : Call) :
    (handle.perform call).2.Orderly := by
  match performed : handle.perform call with
  | (answer, after) =>
    cases perform_cases performed with
    | refused => exact orderly
    | alone free => exact orderly
    | connected free => exact ⟨orderly.1, fun _ => rfl⟩
    | disconnected taken => exact ⟨orderly.1, orderly.2⟩
    | queued accepts packet => exact ⟨fun rejects => by simp_all, orderly.2⟩

end Handle

namespace ReactionEntry

variable {ν : Type}

/-- The entry of a world that a reaction's record becomes. -/
def entry : ReactionEntry ν → Entry ν
  | called call answer => .called call answer
  | noted note => .noted note

end ReactionEntry

namespace Reaction

variable {ν α : Type}

/-- What every call preserves, a whole reaction preserves. -/
theorem run_induction {holds : Handle → Prop}
    (preserved : ∀ handle call, holds handle → holds (handle.perform call).2)
    (reaction : Reaction ν α) {handle : Handle} (start : holds handle) :
    holds (reaction.run handle).2.1 := by
  induction reaction generalizing handle with
  | done result => exact start
  | note entry rest ih => exact ih start
  | call request next ih => exact ih _ (preserved handle request start)
  | observe next ih => exact ih _ _ start

/-- The phases that a reaction can see from its beginning to its end. -/
def phases : Reaction ν α → Handle → List Phase
  | done _, handle => [handle.phase]
  | note _ rest, handle => rest.phases handle
  | call request next, handle =>
    handle.phase :: (next (handle.perform request).1).phases (handle.perform request).2
  | observe next, handle => handle.phase :: (next handle.phase handle.active).phases handle

/-- A reaction sees one phase all the time. -/
theorem phase_of_mem_phases (reaction : Reaction ν α) {handle : Handle} {phase : Phase}
    (seen : phase ∈ reaction.phases handle) : phase = handle.phase := by
  induction reaction generalizing handle with
  | done result => simpa [phases] using seen
  | note entry rest ih => exact ih seen
  | call request next ih =>
    rcases List.mem_cons.mp seen with now | later
    · exact now
    · simpa using ih _ later
  | observe next ih =>
    rcases List.mem_cons.mp seen with now | later
    · exact now
    · exact ih _ _ later

end Reaction

end Uplink
