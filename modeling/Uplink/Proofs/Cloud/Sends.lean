import Uplink.Cloud.Application
import Uplink.Proofs.Backend.Habits
import Uplink.Proofs.Backend.Requests

/-!
# What the wrapper does for an application

A send of the application is the publish of a message on a topic of the device, and whatever
else it asks for neither publishes nor subscribes. `Entry.Realizes` ties a list of what was asked
to the calls that the backend records, one by one and answer by answer. What a routine of the
application does realizes what its own diary says: `Entry.attests_routine`.
-/

namespace Uplink

/-- The message that a send of the application is on the device with an identifier. -/
def CloudCall.publication? (id : String) : CloudCall → Option Message
  | .stateSend payload | .dataSend payload | .uiSend payload =>
    some ⟨id ++ "/messages", payload, .atMostOnce⟩
  | .batchSend payload => some ⟨id ++ "/batch", payload, .atMostOnce⟩
  | .connect | .disconnect | .stateGet => none

/-- The call of the backend that a request of the application is on the device with an
identifier. -/
def CloudCall.backendCall? (id : String) (request : CloudCall) : Option Call :=
  match request with
  | .connect => some .connect
  | .disconnect => some .disconnect
  | .stateGet => none
  | .stateSend _ | .dataSend _ | .batchSend _ | .uiSend _ => (request.publication? id).map .publish

/-- The publish of a message, but for its identifier. -/
def Message.packet (message : Message) : UInt16 → Outbound := fun packetId =>
  .publish { topic := message.topic, payload := message.payload, qos := message.qos, packetId }

/-- Sends are published at most once. -/
theorem CloudCall.qos_of_publication? {id : String} {asked : CloudCall} {message : Message}
    (isSend : asked.publication? id = some message) : message.qos = .atMostOnce := by
  cases asked <;> cases isSend <;> rfl

/-- The identifier of a message that is published at most once is not on the wire. -/
theorem Message.encode_packet {message : Message} (qos : message.qos = .atMostOnce)
    (packetId : UInt16) (capacity : Nat) :
    (message.packet packetId).encode capacity =
      (Outbound.publish ⟨message.topic, message.payload, .atMostOnce, none, false, false⟩).encode
        capacity := by
  let published : Publish := ⟨message.topic, message.payload, .atMostOnce, none, false, false⟩
  have atMostOnce : published.qos = .atMostOnce := rfl
  rw [packet, qos]
  exact Publish.encode_of_atMostOnce atMostOnce packetId capacity

/-- The message of an accepted publish. -/
def Entry.sent? {ν : Type} : Entry ν → Option Message
  | .called (.publish message) (.ok _) => some message
  | _ => none

/-- The topics of a device lie under its identifier. -/
theorem TopicSet.texts_of_ofClientId {clientId : ClientId} {topics : TopicSet}
    (derived : ofClientId clientId = .ok topics) :
    topics.cfg.text = clientId.text ++ "/cfg" ∧ topics.batch.text = clientId.text ++ "/batch" ∧
      topics.messages.text = clientId.text ++ "/messages" := by
  have text {leaf : String} {derivedTopic : Topic} (made : topic clientId leaf = .ok derivedTopic) :
      derivedTopic.text = clientId.text ++ ("/" ++ leaf) := by
    unfold topic at made
    split at made
    · next short =>
      cases made
      rw [Topic.text_of_ofText short, String.append_assoc]
    · cases made
  unfold ofClientId at derived
  cases cfg : topic clientId "cfg" with
  | error reason => simp [cfg, bind, Except.bind] at derived
  | ok cfgTopic =>
    cases batch : topic clientId "batch" with
    | error reason => simp [cfg, batch, bind, Except.bind] at derived
    | ok batchTopic =>
      cases messages : topic clientId "messages" with
      | error reason => simp [cfg, batch, messages, bind, Except.bind] at derived
      | ok messagesTopic =>
        simp only [cfg, batch, messages, bind, Except.bind, pure, Except.pure] at derived
        cases derived
        exact ⟨text cfg, text batch, text messages⟩

/-- The message of a send that was accepted. -/
def Asked.sent? (id : String) (asked : Asked) : Option Message :=
  match asked.answer with
  | .ok _ => asked.request.publication? id
  | .error _ => none

theorem Asked.sent?_of_unpublished {id : String} {request : CloudCall}
    {answer : Except WrapError Unit} (unpublished : request.publication? id = none) :
    Asked.sent? id ⟨request, answer⟩ = none := by
  cases answer with
  | ok => exact unpublished
  | error => rfl

/-- Accepted sends are published at most once. -/
theorem Asked.qos_of_sent {id : String} {asked : List Asked} {message : Message}
    (isSent : message ∈ asked.filterMap (sent? id)) : message.qos = .atMostOnce := by
  obtain ⟨⟨request, answer⟩, -, isSend⟩ := List.mem_filterMap.mp isSent
  cases answer with
  | ok => exact CloudCall.qos_of_publication? isSend
  | error => cases isSend

/-- A bind does what its first part does, and then what follows on the result. -/
theorem Reaction.run_bind {ν α β : Type} (reaction : Reaction ν α) (next : α → Reaction ν β)
    (handle : Handle) :
    (reaction.bind next).run handle =
      let first := reaction.run handle
      let second := (next first.1).run first.2.1
      (second.1, second.2.1, first.2.2 ++ second.2.2) := by
  induction reaction generalizing handle with
  | done result => rfl
  | note entry rest ih => simp only [bind, run, ih, List.cons_append]
  | call request answered ih => simp only [bind, run, ih, List.cons_append]
  | observe seen ih => exact ih _ _ handle

namespace Wrapper

variable {σ ν : Type} {wrapper : Wrapper} {id : String}

/-- From outside the task, the wrapper does what it does while an event is handled. -/
theorem perform_eq_serve (world : World σ ν) (request : CloudCall) :
    let served := (wrapper.serve request : Reaction ν _).run world.handle
    wrapper.perform world request = (served.1, { world with
      handle := served.2.1
      trace := (served.2.2.map ReactionEntry.entry).reverse ++ world.trace }) := by
  unfold perform serve
  cases wrapper.call? request <;> rfl

/-- What the wrapper does for the application is a call of the backend, or nothing. -/
theorem perform_cases (setup : Setup σ ν) (world : World σ ν) (request : CloudCall) :
    (wrapper.perform world request).2 = world ∨
      ∃ call, (wrapper.perform world request).2 = setup.move world (.call call) := by
  unfold perform
  cases wrapper.call? request with
  | none => exact .inl rfl
  | some call => exact .inr ⟨call, rfl⟩

/-- The wrapper publishes on the topics of the device with an identifier. -/
structure Serves (wrapper : Wrapper) (id : String) : Prop where
  cfg : wrapper.topics.cfg.text = id ++ "/cfg"
  batch : wrapper.topics.batch.text = id ++ "/batch"
  messages : wrapper.topics.messages.text = id ++ "/messages"

/-- The wrapper makes of a request what it is on the device. -/
theorem Serves.call?_eq_backendCall? (serves : wrapper.Serves id) (request : CloudCall) :
    wrapper.call? request = request.backendCall? id := by
  cases request with
  | connect | disconnect | stateGet => rfl
  | stateSend | dataSend | uiSend =>
    rw [call?, send, serves.messages]
    rfl
  | batchSend =>
    rw [call?, send, serves.batch]
    rfl

/-- A send is the publish of its message. -/
theorem Serves.call?_eq (serves : wrapper.Serves id) {request : CloudCall} {message : Message}
    (isSend : request.publication? id = some message) :
    wrapper.call? request = some (.publish message) := by
  rw [serves.call?_eq_backendCall?]
  cases request with
  | connect | disconnect | stateGet => cases isSend
  | stateSend | dataSend | batchSend | uiSend =>
    rw [CloudCall.backendCall?, isSend, Option.map_some]

/-- What the wrapper answers by itself is no send. -/
theorem Serves.publication?_of_uncalled (serves : wrapper.Serves id) {request : CloudCall}
    (noCall : wrapper.call? request = none) : request.publication? id = none := by
  cases isSend : request.publication? id with
  | none => rfl
  | some message => cases noCall.symm.trans (serves.call?_eq isSend)

/-- The application publishes nothing but its sends, and does not subscribe. -/
theorem Serves.call?_cases (serves : wrapper.Serves id) {request : CloudCall} {call : Call}
    (isCall : wrapper.call? request = some call) :
    (call = .connect ∨ call = .disconnect) ∧ request.publication? id = none ∨
      ∃ message, call = .publish message ∧ request.publication? id = some message := by
  cases isSend : request.publication? id with
  | some message =>
    rw [serves.call?_eq isSend] at isCall
    exact .inr ⟨message, (Option.some.inj isCall).symm, rfl⟩
  | none =>
    cases request with
    | connect => exact .inl ⟨.inl (Option.some.inj isCall).symm, rfl⟩
    | disconnect => exact .inl ⟨.inr (Option.some.inj isCall).symm, rfl⟩
    | stateGet => cases isCall
    | stateSend | dataSend | batchSend | uiSend => cases isSend

/-- What `init` makes of a device. -/
structure Wraps (wrapper : Wrapper) (id : String) (application : CloudHandler σ ν)
    (setup : Setup σ ν) : Prop where
  serves : wrapper.Serves id
  handler : setup.handler = Translator.handler wrapper.topics.cfg application

theorem wraps_of_init {clientId : ClientId} {config : BackendConfig} {stateGet : StateGetPolicy}
    {application : CloudHandler σ ν} {setup : Setup σ ν}
    (made : init clientId config stateGet application = .ok (wrapper, setup)) :
    wrapper.Wraps clientId.text application setup := by
  unfold init at made
  cases derived : TopicSet.ofClientId clientId with
  | error reason => simp [derived, Bind.bind, Except.bind] at made
  | ok topics =>
    obtain ⟨cfg, batch, messages⟩ := TopicSet.texts_of_ofClientId derived
    simp only [derived, Bind.bind, Except.bind] at made
    split at made
    · cases made
    · cases made
    · cases made
      exact ⟨⟨cfg, batch, messages⟩, rfl⟩

end Wrapper

namespace Entry

variable {ν : Type} {entries more : List (Entry ν)} {asked further : List Asked}
  {wrapper : Wrapper} {id : String}

/-! ## What was asked and what was called -/

/-- The request that the application has noted. -/
def asked? : Entry (Asked ⊕ ν) → Option Asked
  | .noted (.inl asked) => some asked
  | _ => none

/-- Some entries hold the calls that some requests of the wrapper come to, in their order and
with their answers, and no other calls, and no session is accepted in them. -/
inductive Realizes (wrapper : Wrapper) : List (Entry ν) → List Asked → Prop where
  | nil : Realizes wrapper [] []
  | noted {entries : List (Entry ν)} {asked : List Asked} (note : ν)
      (rest : Realizes wrapper entries asked) : Realizes wrapper (.noted note :: entries) asked
  | incidental {entry : Entry ν} {entries : List (Entry ν)} {asked : List Asked}
      (incidental : entry.Incidental) (rest : Realizes wrapper entries asked) :
      Realizes wrapper (entry :: entries) asked
  | called {request : CloudCall} {call : Call} {answer : Except BackendError Unit}
      {entries : List (Entry ν)} {asked : List Asked}
      (isCall : wrapper.call? request = some call) (rest : Realizes wrapper entries asked) :
      Realizes wrapper (.called call answer :: entries)
        (⟨request, answer.mapError .backend⟩ :: asked)
  /-- A request that the wrapper answers by itself. -/
  | uncalled {request : CloudCall} {entries : List (Entry ν)} {asked : List Asked}
      (noCall : wrapper.call? request = none) (rest : Realizes wrapper entries asked) :
      Realizes wrapper entries (⟨request, wrapper.stateGet.answer⟩ :: asked)

theorem Realizes.append (first : Realizes wrapper entries asked)
    (second : Realizes wrapper more further) :
    Realizes wrapper (entries ++ more) (asked ++ further) := by
  induction first with
  | nil => exact second
  | noted note _ ih => exact .noted note ih
  | incidental incidental _ ih => exact .incidental incidental ih
  | called isCall _ ih => exact .called isCall ih
  | uncalled noCall _ ih => exact .uncalled noCall ih

/-- A call that a request comes to sends what the request sends. -/
theorem sent?_of_call? (serves : wrapper.Serves id) {request : CloudCall} {call : Call}
    (isCall : wrapper.call? request = some call) (answer : Except BackendError Unit) :
    (called call answer : Entry ν).sent? =
      Asked.sent? id ⟨request, answer.mapError .backend⟩ := by
  cases answer with
  | error => cases call <;> rfl
  | ok =>
    rcases serves.call?_cases isCall with ⟨rfl | rfl, unsent⟩ | ⟨message, rfl, isSend⟩
    · exact unsent.symm
    · exact unsent.symm
    · exact isSend.symm

/-- The accepted sends are the accepted publishes. -/
theorem Realizes.sent_eq (realizes : Realizes wrapper entries asked) (serves : wrapper.Serves id) :
    entries.filterMap sent? = asked.filterMap (Asked.sent? id) := by
  induction realizes with
  | nil => rfl
  | noted note _ ih => exact ih
  | @incidental entry _ _ incidental _ ih =>
    have unsent : entry.sent? = none := by
      cases entry with
      | called | noted => cases incidental
      | raised | opened | received | handled | handed | aborted | returned => rfl
    rw [List.filterMap_cons_none unsent, ih]
  | @called request call answer _ _ isCall _ ih =>
    simp only [List.filterMap_cons, sent?_of_call? serves isCall, ih]
  | @uncalled request _ _ noCall _ ih =>
    have unsent : Asked.sent? id ⟨request, wrapper.stateGet.answer⟩ = none :=
      Asked.sent?_of_unpublished (serves.publication?_of_uncalled noCall)
    rw [List.filterMap_cons_none unsent, ih]

/-- Among them is no subscription. -/
theorem Realizes.unsubscribed (realizes : Realizes wrapper entries asked)
    (serves : wrapper.Serves id) : ∀ topic answer, .called (.subscribe topic) answer ∉ entries := by
  intro topic answer isEntry
  induction realizes with
  | nil => cases isEntry
  | noted note _ ih =>
    rcases List.mem_cons.mp isEntry with same | later
    · cases same
    · exact ih later
  | incidental incidental _ ih =>
    rcases List.mem_cons.mp isEntry with rfl | later
    · exact incidental
    · exact ih later
  | called isCall _ ih =>
    rcases List.mem_cons.mp isEntry with same | later
    · cases same
      rcases serves.call?_cases isCall with ⟨other | other, -⟩ | ⟨message, other, -⟩ <;> cases other
    · exact ih later
  | uncalled _ _ ih => exact ih isEntry

theorem Realizes.unaccepted (realizes : Realizes wrapper entries asked) :
    .connected ∉ entries.filterMap event? ∧ .ready ∉ entries.filterMap event? := by
  induction realizes with
  | nil => exact ⟨nofun, nofun⟩
  | noted | called | uncalled => assumption
  | @incidental entry _ _ incidental _ ih =>
    cases entry with
    | raised event phase =>
      simp only [List.filterMap_cons, event?, List.mem_cons, not_or]
      exact ⟨⟨incidental.1.symm, ih.1⟩, incidental.2.symm, ih.2⟩
    | called | noted => cases incidental
    | opened | received | handled | handed | aborted | returned => exact ih

/-- Some entries realize what their own notes say was asked. -/
def Attests (wrapper : Wrapper) (entries : List (Entry (Asked ⊕ ν))) : Prop :=
  Realizes wrapper entries (entries.filterMap asked?)

theorem habit_attests :
    Habit (Attests wrapper : List (Entry (Asked ⊕ ν)) → Prop) where
  nil := .nil
  append first second := by
    rw [Attests, List.filterMap_append]
    exact Realizes.append first second
  incidental {entry} incidental := by
    cases entry with
    | called | noted => cases incidental
    | raised | opened | received | handled | handed | aborted | returned =>
      exact .incidental incidental .nil

/-- What the wrapper does about a request realizes it. -/
theorem realizes_serve (request : CloudCall) (handle : Handle) :
    Realizes wrapper
      (((wrapper.serve request : Reaction ν _).run handle).2.2.map ReactionEntry.entry)
      [⟨request, ((wrapper.serve request : Reaction ν _).run handle).1⟩] := by
  unfold Wrapper.serve
  cases isCall : wrapper.call? request with
  | some call => exact .called isCall .nil
  | none => exact .uncalled isCall .nil

/-- The wrapper leaves no notes of its own. -/
theorem filterMap_asked?_serve (request : CloudCall) (handle : Handle) :
    (((wrapper.serve request : Reaction (Asked ⊕ ν) _).run handle).2.2.map
      ReactionEntry.entry).filterMap asked? = [] := by
  unfold Wrapper.serve
  cases wrapper.call? request <;> rfl

/-- What a routine does is attested by its diary. -/
theorem attests_routine {α : Type} (routine : Routine ν α) (handle : Handle) :
    Attests wrapper
      (((routine.through wrapper).run handle).2.2.map ReactionEntry.entry) := by
  induction routine generalizing handle with
  | done result => exact .nil
  | note entry rest ih => exact .noted (.inr entry) (ih handle)
  | ask request next ih =>
    let reaction : Reaction (Asked ⊕ ν) (Except WrapError Unit) := wrapper.serve request
    have served : Realizes wrapper ((reaction.run handle).2.2.map ReactionEntry.entry)
        [⟨request, (reaction.run handle).1⟩] := realizes_serve request handle
    have later := ih (reaction.run handle).1 (reaction.run handle).2.1
    rw [Attests, Routine.through, Reaction.run_bind, List.map_append, List.filterMap_append,
      filterMap_asked?_serve]
    exact served.append (.noted _ later)
  | observe next ih => exact ih _ _ handle

end Entry

end Uplink
