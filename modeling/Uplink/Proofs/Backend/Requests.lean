import Mathlib.Data.List.TakeWhile
import Uplink.Proofs.Backend.Attempts

/-!
# What a session sends for its callers

The publishes and subscriptions that a session gives to the link are those that were
accepted while it was up: in their order, numbered from one, and each at most once.
`Ledger` is the invariant. At any moment the accepted calls are the requests that were
taken from the queue, followed by those that wait in it, and the requests taken are
those that were given to the link, followed by the one in flight.
-/

namespace Uplink

/-- The packet identifier of a session's request, counted from zero. -/
def requestId (index : Nat) : UInt16 := (index % 65535 + 1).toUInt16

/-- The packet identifier given out last, after a number of requests. -/
def idAfter : (count : Nat) → UInt16
  | 0 => 0
  | count + 1 => requestId count

/-- Identifiers run from one to the largest and begin again at one. -/
theorem nextId_idAfter (count : Nat) : Client.nextId (idAfter count) = requestId count := by
  cases count with
  | zero => decide
  | succ count =>
    have number : (requestId count).toNat = count % 65535 + 1 := by
      simp only [requestId, Nat.toUInt16_eq, UInt16.toNat_ofNat']
      omega
    have following : (requestId (count + 1)).toNat = (count + 1) % 65535 + 1 := by
      simp only [requestId, Nat.toUInt16_eq, UInt16.toNat_ofNat']
      omega
    rw [idAfter, Client.nextId]
    apply UInt16.toNat_inj.mp
    split
    · next wraps =>
      have wraps := congrArg UInt16.toNat wraps
      simp only [UInt16.toNat_add, number, UInt16.reduceToNat] at wraps
      rw [following]
      show 1 = _
      omega
    · next proceeds =>
      have proceeds : (requestId count + 1).toNat ≠ 0 :=
        fun zero => proceeds (UInt16.toNat_inj.mp zero)
      simp only [UInt16.toNat_add, number, UInt16.reduceToNat] at proceeds ⊢
      omega

/-- The packets of a session's requests with their identifiers. -/
def numbered (packets : List (UInt16 → Outbound)) : List Outbound :=
  packets.mapIdx fun index packet => packet (requestId index)

theorem numbered_concat (packets : List (UInt16 → Outbound)) (packet : UInt16 → Outbound) :
    numbered (packets ++ [packet]) = numbered packets ++ [packet (requestId packets.length)] := by
  simp [numbered]

/-- Later requests do not change the numbers of earlier ones. -/
theorem numbered_prefix_append (packets more : List (UInt16 → Outbound)) :
    numbered packets <+: numbered (packets ++ more) := by
  rw [numbered, numbered, List.mapIdx_append]
  exact List.prefix_append _ _

/-- A message that is not acknowledged does not show its identifier. -/
theorem Publish.encode_of_atMostOnce {message : Publish} (qos : message.qos = .atMostOnce)
    (packetId : Option UInt16) (capacity : Nat) :
    (Outbound.publish { message with packetId }).encode capacity =
      (Outbound.publish message).encode capacity := by
  have body : { message with packetId }.body = message.body := by
    simp only [Publish.body, qos, ne_eq, not_true_eq_false, if_false]
  simp only [Outbound.encode, Outbound.encodeInto, body, Publish.header]

namespace Entry

variable {ν : Type} {entries more : List (Entry ν)} {phase : Phase}

/-- An event is not raised in an entry. -/
def misses (event : Event) (entry : Entry ν) : Bool := decide (entry.event? ≠ some event)

/-- What is recorded from the acceptance of a session to its end. -/
def inSession (entries : List (Entry ν)) : List (Entry ν) :=
  (entries.dropWhile (misses .connected)).takeWhile (misses .disconnected)

/-- The frame that is given to the link is the encoding of the packet. -/
def Framed : Entry ν → Prop
  | handed packet frame _ => packet.encode Limits.packetBuffer = .ok frame
  | _ => True

/-- Nothing of a session yet: no acceptance, no accepted call, no request sent. -/
structure Quiet (entries : List (Entry ν)) : Prop where
  unconnected : .connected ∉ entries.filterMap event?
  unowed : entries.filterMap owed? = []
  unsent : entries.filterMap request? = []

/-- How far a session has come in a phase. -/
inductive Staged (entries : List (Entry ν)) : Phase → Prop where
  | awaiting (quiet : Quiet entries) : Staged entries .connecting
  | accepted {earlier later : List (Entry ν)} {answer : ConnAck}
      (split : entries = earlier ++
        .handled (.connAck answer) :: .raised .connected .connected :: later)
      (success : answer.returnCode = 0) (quiet : Quiet earlier)
      (unended : .disconnected ∉ later.filterMap event?) : Staged entries .ready

/-- What an attempt hands to the link for its callers, with what it is about to hand. -/
structure Served (entries : List (Entry ν)) (inFlight : List Outbound) : Prop where
  /-- The requests are those accepted in the session, in order and numbered. -/
  in_order : entries.filterMap request? ++ inFlight <+:
    numbered ((inSession entries).filterMap owed?)
  /-- The first of them comes after the acceptance of the session. -/
  after_acceptance : entries.filterMap request? ++ inFlight ≠ [] →
    ∃ earlier answer later, entries = earlier ++
      .handled (.connAck answer) :: .raised .connected .connected :: later ∧
      answer.returnCode = 0 ∧ earlier.filterMap request? = []
  framed : ∀ entry ∈ entries, entry.Framed

theorem Quiet.append (quiet : Quiet entries) (unconnected : .connected ∉ more.filterMap event?)
    (unowed : more.filterMap owed? = []) (unsent : more.filterMap request? = []) :
    Quiet (entries ++ more) where
  unconnected := by simpa [quiet.unconnected] using unconnected
  unowed := by simp [quiet.unowed, unowed]
  unsent := by simp [quiet.unsent, unsent]

theorem misses_of_unraised {event : Event} (unraised : event ∉ entries.filterMap event?) :
    ∀ entry ∈ entries, entry.misses event = true := by
  intro entry isEntry
  refine decide_eq_true fun raised => ?_
  exact unraised (List.mem_filterMap.mpr ⟨entry, isEntry, raised⟩)

/-- Without an acceptance there is no session. -/
theorem inSession_of_unconnected (unconnected : .connected ∉ entries.filterMap event?) :
    inSession entries = [] := by
  rw [inSession, List.dropWhile_eq_nil_iff.mpr (misses_of_unraised unconnected)]
  rfl

/-- What the end of a session finds of it stays. -/
theorem inSession_of_split {earlier later : List (Entry ν)} {answer : ConnAck}
    (quiet : Quiet earlier) (unended : .disconnected ∉ later.filterMap event?)
    (more : List (Entry ν)) :
    inSession ((earlier ++ .handled (.connAck answer) :: .raised .connected .connected :: later) ++
        more) =
      .raised .connected .connected :: later ++ more.takeWhile (misses .disconnected) := by
  have unendedSession : .disconnected ∉
      (.raised .connected .connected :: later : List (Entry ν)).filterMap event? := by
    simpa [event?] using unended
  rw [inSession, List.append_assoc,
    List.dropWhile_append_of_pos (misses_of_unraised quiet.unconnected)]
  exact List.takeWhile_append_of_pos (misses_of_unraised unendedSession)

/-- What ends a session neither adds to what was accepted in it nor takes from it. -/
theorem Staged.owed_inSession (staged : Staged entries phase)
    (unconnected : .connected ∉ more.filterMap event?)
    (ended : more.takeWhile (misses .disconnected) = []) :
    (inSession (entries ++ more)).filterMap owed? = entries.filterMap owed? := by
  cases staged with
  | awaiting quiet =>
    have unconnected : .connected ∉ (entries ++ more).filterMap event? := by
      simpa [quiet.unconnected] using unconnected
    rw [inSession_of_unconnected unconnected, quiet.unowed]
    rfl
  | accepted split success quiet unended =>
    subst split
    rw [inSession_of_split quiet unended, ended, List.append_nil, List.filterMap_append,
      quiet.unowed]
    rfl

theorem Staged.quiet_or_accepted (staged : Staged entries phase) :
    Quiet entries ∨ ∃ earlier answer later, entries = earlier ++
      .handled (.connAck answer) :: .raised .connected .connected :: later ∧
      answer.returnCode = 0 ∧ earlier.filterMap request? = [] := by
  cases staged with
  | awaiting quiet => exact .inl quiet
  | accepted split success quiet unended => exact .inr ⟨_, _, _, split, success, quiet.unsent⟩

theorem Staged.append (staged : Staged entries phase)
    (tells : ∀ event ∈ more.filterMap event?, event ≠ .connected ∧ event ≠ .disconnected)
    (keepsQuiet : phase = .connecting → Quiet entries →
      more.filterMap owed? = [] ∧ more.filterMap request? = []) :
    Staged (entries ++ more) phase := by
  cases staged with
  | awaiting quiet =>
    obtain ⟨unowed, unsent⟩ := keepsQuiet rfl quiet
    exact .awaiting (quiet.append (fun told => (tells _ told).1 rfl) unowed unsent)
  | @accepted earlier later answer split success quiet unended =>
    have still : .disconnected ∉ (later ++ more).filterMap event? := by
      rw [List.filterMap_append, List.mem_append, not_or]
      exact ⟨unended, fun told => (tells _ told).2 rfl⟩
    exact .accepted (by simp [split]) success quiet still

/-- The books of an attempt: its requests are taken from the queue in order, numbered, and
given to the link one by one. -/
structure Ledger (entries : List (Entry ν)) (taken : List (UInt16 → Outbound))
    (handle : Handle) (inFlight : List Outbound) (lastId : UInt16) : Prop where
  staged : Staged entries handle.phase
  framed : ∀ entry ∈ entries, entry.Framed
  owed : entries.filterMap owed? = taken ++ handle.requests.map Request.packet
  handed : entries.filterMap request? ++ inFlight = numbered taken
  lastId_eq : lastId = idAfter taken.length

variable {taken : List (UInt16 → Outbound)} {handle after : Handle}
  {inFlight sending : List Outbound} {lastId : UInt16}

/-- Before the session is accepted the books are empty. -/
theorem Ledger.taken_eq_nil (ledger : Ledger entries taken handle inFlight lastId)
    (quiet : Quiet entries) : taken = [] := by
  have owed := ledger.owed
  rw [quiet.unowed] at owed
  exact (List.append_eq_nil_iff.mp owed.symm).1

theorem Ledger.inFlight_eq_nil (ledger : Ledger entries taken handle inFlight lastId)
    (quiet : Quiet entries) : inFlight = [] := by
  have handed := ledger.handed
  rw [ledger.taken_eq_nil quiet, quiet.unsent] at handed
  exact handed

/-- What the books say of the requests that were sent. What is recorded behind them may
end the session. -/
theorem Ledger.served (ledger : Ledger entries taken handle inFlight lastId)
    (unconnected : .connected ∉ more.filterMap event?)
    (ended : more.takeWhile (misses .disconnected) = [])
    (unsent : more.filterMap request? = []) (framed : ∀ entry ∈ more, entry.Framed)
    (reached : sending <+: inFlight) : Served (entries ++ more) sending := by
  have sent : (entries ++ more).filterMap request? ++ sending =
      entries.filterMap request? ++ sending := by
    rw [List.filterMap_append, unsent, List.append_nil]
  refine ⟨?_, ?_, ?_⟩
  · rw [sent, ledger.staged.owed_inSession unconnected ended, ledger.owed]
    refine List.IsPrefix.trans ?_ (numbered_prefix_append _ _)
    rw [← ledger.handed]
    exact (List.prefix_append_right_inj _).mpr reached
  · rw [sent]
    intro some_sent
    obtain quiet | ⟨earlier, answer, later, split, success, unsent⟩ :=
      ledger.staged.quiet_or_accepted
    · rw [ledger.inFlight_eq_nil quiet, List.prefix_nil] at reached
      simp [quiet.unsent, reached] at some_sent
    · exact ⟨earlier, answer, later ++ more, by simp [split], success, unsent⟩
  · intro entry isEntry
    rcases List.mem_append.mp isEntry with before | behind
    · exact ledger.framed entry before
    · exact framed entry behind

/-- The books are kept when something is recorded that is neither the acceptance nor the
end of the session: what is owed to its calls joins the queue, and what it gives to the
link was in flight. -/
theorem Ledger.append (ledger : Ledger entries taken handle inFlight lastId)
    (phase : after.phase = handle.phase)
    (tells : ∀ event ∈ more.filterMap event?, event ≠ .connected ∧ event ≠ .disconnected)
    (queue : after.requests.map Request.packet =
      handle.requests.map Request.packet ++ more.filterMap owed?)
    (unowed : handle.phase.acceptsRequests = false → more.filterMap owed? = [])
    (handed : more.filterMap request? ++ sending = inFlight)
    (framed : ∀ entry ∈ more, entry.Framed) :
    Ledger (entries ++ more) taken after sending lastId where
  staged := by
    rw [phase]
    refine ledger.staged.append tells fun connecting quiet => ⟨unowed (by rw [connecting]; rfl), ?_⟩
    rw [ledger.inFlight_eq_nil quiet] at handed
    exact (List.append_eq_nil_iff.mp handed).1
  framed := by
    intro entry isEntry
    rcases List.mem_append.mp isEntry with before | behind
    · exact ledger.framed entry before
    · exact framed entry behind
  owed := by rw [List.filterMap_append, ledger.owed, queue, List.append_assoc]
  handed := by rw [List.filterMap_append, List.append_assoc, handed, ledger.handed]
  lastId_eq := ledger.lastId_eq

end Entry

/-- The packet, if it carries out a request. -/
def Outbound.asRequest (packet : Outbound) : List Outbound :=
  if packet.isRequest then [packet] else []

namespace Stage

/-- The request that is being given to the link. -/
def inFlight : Stage → List Outbound
  | sending _ packet _ _ => packet.asRequest
  | resting | awaitingRequest | opening | draining _ | selecting _ _ _ => []

/-- The packet identifier that the session gave out last. -/
def lastId : Stage → UInt16
  | sending client _ _ _ | draining client | selecting client _ _ => client.packetId
  | resting | awaitingRequest | opening => 0

/-- A session has a buffer of the size that frames are made for. -/
def Fit : Stage → Prop
  | sending client packet frame _ =>
    client.capacity = Limits.packetBuffer ∧ packet.encode Limits.packetBuffer = .ok frame
  | draining client | selecting client _ _ => client.capacity = Limits.packetBuffer
  | resting | awaitingRequest | opening => True

@[simp] theorem inFlight_waiting (stage : Stage) : stage.waiting.inFlight = stage.inFlight := by
  cases stage <;> rfl

@[simp] theorem lastId_waiting (stage : Stage) : stage.waiting.lastId = stage.lastId := by
  cases stage <;> rfl

@[simp] theorem fit_waiting (stage : Stage) : stage.waiting.Fit = stage.Fit := by
  cases stage <;> rfl

end Stage

/-- Handing out a packet leaves the identifiers and the buffer size alone. -/
theorem Client.frame_of_next {client rested : Client}
    {result : Except ProtocolError (Option Inbound)} (reads : client.next = (result, rested)) :
    rested.packetId = client.packetId ∧ rested.capacity = client.capacity := by
  have same : rested = client.next.2 := (congrArg Prod.snd reads).symm
  subst same
  simp only [next]
  split <;> exact ⟨rfl, rfl⟩

namespace Setup

open Entry

variable {σ ν : Type} (setup : Setup σ ν) {before world after : World σ ν}
  {client : Client} {packet : Outbound} {next : Continuation}
  {inFlight : List Outbound} {lastId : UInt16}

theorem framed_voice (event : Event) (world : World σ ν) :
    ∀ entry ∈ setup.voice event world, entry.Framed := by
  intro entry isEntry
  rcases List.mem_cons.mp isEntry with rfl | left
  · trivial
  · obtain ⟨noted, _, rfl⟩ := List.mem_map.mp left
    cases noted <;> trivial

/-- The books of the attempt that began in `before` are in order. -/
def Booked (before world : World σ ν) (inFlight : List Outbound) (lastId : UInt16) : Prop :=
  ∃ entries taken, before.Grows entries world ∧
    Ledger entries taken world.handle inFlight lastId

/-- The attempt that began in `before` keeps its books as long as it is under way, and
leaves an empty queue and no packet that is owed outside of its session. -/
def Kept (before world : World σ ν) : Prop :=
  (world.stage.isBusy = true →
      Booked before world world.stage.inFlight world.stage.lastId ∧ world.stage.Fit) ∧
    (world.stage.isBusy = false →
      (∃ entries, before.Grows entries world ∧ Served entries [] ∧
        (inSession entries).filterMap owed? = entries.filterMap owed?) ∧
      world.handle.requests = [])

theorem Booked.record (booked : Booked before world inFlight lastId) {entry : Entry ν}
    (silent : entry.event? = none) (unowed : entry.owed? = none) (unsent : entry.request? = none)
    (framed : entry.Framed) : Booked before (world.record entry) inFlight lastId := by
  obtain ⟨entries, taken, earlier, ledger⟩ := booked
  refine ⟨_, taken, earlier.append (world.grows_record entry), ledger.append rfl ?_ ?_ ?_ ?_ ?_⟩
  · simp [silent]
  · simp [unowed]
  · simp [unowed]
  · simp [unsent]
  · simpa using framed

/-- Only the phase and the queue of the handle are in the books. -/
theorem Booked.of_same (booked : Booked before world inFlight lastId)
    (trace : after.trace = world.trace) (phase : after.handle.phase = world.handle.phase)
    (requests : after.handle.requests = world.handle.requests) :
    Booked before after inFlight lastId := by
  obtain ⟨entries, taken, earlier, staged, framed, owed, handed, lastId_eq⟩ := booked
  refine ⟨entries, taken, trace.trans earlier, ?_, framed, ?_, handed, lastId_eq⟩
  · rwa [phase]
  · rwa [requests]

/-- What was in flight is given to the link. -/
theorem Booked.hand (booked : Booked before world packet.asRequest lastId) {frame : Bytes}
    (framed : packet.encode Limits.packetBuffer = .ok frame) (accepted : Bool) :
    Booked before (world.record (.handed packet frame accepted)) [] lastId := by
  obtain ⟨entries, taken, earlier, ledger⟩ := booked
  refine ⟨_, taken, earlier.append (world.grows_record _), ledger.append rfl ?_ ?_ ?_ ?_ ?_⟩
  · simp [event?]
  · simp [owed?]
  · simp [owed?]
  · cases isRequest : packet.isRequest <;> simp [request?, Outbound.asRequest, isRequest]
  · simpa [Framed] using framed

theorem Booked.raise_data (booked : Booked before world inFlight lastId) (topic : String)
    (payload : Bytes) :
    Booked before (setup.raise (.dataReceived topic payload) world) inFlight lastId := by
  obtain ⟨entries, taken, earlier, ledger⟩ := booked
  refine ⟨_, taken, earlier.append (setup.grows_raise _ world), ledger.append ?_ ?_ ?_ ?_ ?_ ?_⟩
  · exact setup.raise_phase _ _
  · simp
  · exact setup.raise_requests _ _
  · exact setup.filterMap_owed?_voice _
  · simp
  · exact setup.framed_voice _ _

/-- A caller's request joins the queue as soon as it is accepted. -/
theorem Booked.call (booked : Booked before world inFlight lastId) (request : Call) :
    Booked before (world.call request).2 inFlight lastId := by
  obtain ⟨entries, taken, earlier, ledger⟩ := booked
  refine ⟨_, taken, earlier.append (world.grows_call request), ledger.append ?_ ?_ ?_ ?_ ?_ ?_⟩
  · exact Handle.perform_phase _ _
  · simp [event?]
  · rw [filterMap_owed?_called, List.filterMap_nil, List.append_nil]
    exact Handle.perform_requests _ _
  · intro rejects
    rw [filterMap_owed?_called, Handle.owed?_perform_of_rejects rejects]
    rfl
  · simp [request?]
  · simp [Framed]

/-- The oldest request is taken from the queue, and is in flight with the next number. -/
theorem Booked.take (booked : Booked before world [] lastId) {request : Request}
    {requests : List Request} (queued : world.handle.requests = request :: requests) :
    Booked before { world with handle := { world.handle with requests } }
      (requestPacket (Client.nextId lastId) request).asRequest (Client.nextId lastId) := by
  obtain ⟨entries, taken, earlier, ledger⟩ := booked
  have number : Client.nextId lastId = requestId taken.length := by
    rw [ledger.lastId_eq, nextId_idAfter]
  have isRequest : (request.packet (requestId taken.length)).asRequest =
      [request.packet (requestId taken.length)] := by
    cases request <;> rfl
  have owed := ledger.owed
  have handed := ledger.handed
  rw [queued, List.map_cons] at owed
  rw [List.append_nil] at handed
  refine ⟨entries, taken ++ [request.packet], earlier, ledger.staged, ledger.framed, ?_, ?_, ?_⟩
  · rw [owed, List.append_assoc]
    rfl
  · rw [number, numbered_concat, handed]
    exact congrArg _ isRequest
  · rw [number, List.length_append]
    rfl

/-- The acceptance opens the books. -/
theorem Booked.accept (booked : Booked before world [] lastId) {answer : ConnAck}
    (success : answer.returnCode = 0) (first : world.handle.phase = .connecting) :
    Booked before (setup.enter .ready .ready
      (setup.enter .connected .connected (world.record (.handled (.connAck answer)))))
      [] lastId := by
  obtain ⟨entries, taken, earlier, ledger⟩ := booked
  let answered : World σ ν := world.record (.handled (.connAck answer))
  let told := setup.acceptance answered
  have grows : answered.Grows told _ := setup.grows_acceptance answered
  have queue := setup.acceptance_requests answered
  have unsent : told.filterMap request? = [] := by simp [told, acceptance]
  have staged := ledger.staged
  rw [first] at staged
  cases staged with
  | awaiting quiet =>
    refine ⟨entries ++ .handled (.connAck answer) :: told, taken,
      earlier.append ((world.grows_record _).append grows), ?_, ?_, ?_, ?_, ledger.lastId_eq⟩
    · rw [enter_phase]
      exact .accepted rfl success quiet (by simp)
    · intro entry isEntry
      simp only [List.mem_append, List.mem_cons, told, acceptance] at isEntry
      rcases isEntry with before | rfl | connected | ready
      · exact ledger.framed entry before
      · trivial
      · exact setup.framed_voice _ _ entry connected
      · exact setup.framed_voice _ _ entry ready
    · rw [queue, List.filterMap_append, List.filterMap_cons_none rfl, ledger.owed,
        List.append_assoc]
      rfl
    · rw [List.filterMap_append, List.filterMap_cons_none rfl, unsent, List.append_nil,
        ledger.handed]

theorem Kept.of_moveTo {stage : Stage}
    (booked : Booked before world stage.inFlight stage.lastId) (busy : stage.isBusy = true)
    (fit : stage.Fit) : Kept before (world.moveTo stage) := by
  refine ⟨fun _ => ⟨booked, fit⟩, ?_⟩
  simp [busy]

theorem Kept.of_beginTurn (booked : Booked before world [] client.packetId)
    (capacity : client.capacity = Limits.packetBuffer) :
    Kept before (beginTurn client world) :=
  .of_moveTo booked rfl capacity

/-- However an attempt ends, its books are closed by the last event. -/
theorem Kept.of_ends {marks : List (Entry ν)} (booked : Booked before world inFlight lastId)
    (ends : setup.Ends world after marks) : Kept before after := by
  obtain ⟨entries, taken, earlier, ledger⟩ := booked
  have silent : marks.filterMap event? = [] := ends.filterMap_marks rfl rfl
  have unsent : marks.filterMap request? = [] := ends.filterMap_marks rfl rfl
  have unowed : (setup.farewell world ++ marks).filterMap owed? = [] := by
    rw [List.filterMap_append, ends.filterMap_marks rfl rfl, List.append_nil]
    exact setup.filterMap_owed?_voice .disconnected rfl
  have unconnected : .connected ∉ (setup.farewell world ++ marks).filterMap event? := by
    simp [farewell, silent]
  have ended : (setup.farewell world ++ marks).takeWhile (misses .disconnected) = [] := by
    simp [farewell, voice, misses, event?]
  have dropped : after.handle.requests = [] := by
    rw [ends.reset]
    rfl
  refine ⟨by simp [ends.ended], fun _ => ⟨⟨_, earlier.append ends.grows, ?_, ?_⟩, dropped⟩⟩
  -- What is in flight when an attempt ends was never given to the link: it could not be
  -- encoded. So the requests that were given may be fewer than those taken.
  · refine ledger.served unconnected ended ?_ ?_ List.nil_prefix
    · simp [farewell, unsent]
    · intro entry isEntry
      rcases List.mem_append.mp isEntry with told | left
      · exact setup.framed_voice _ _ entry told
      · rcases ends.marksOnly entry left with rfl | rfl <;> trivial
  · rw [ledger.staged.owed_inSession unconnected ended, List.filterMap_append, unowed,
      List.append_nil]

theorem Kept.of_giveUp (booked : Booked before world inFlight lastId) :
    Kept before (setup.giveUp world) := by
  obtain ⟨marks, ends⟩ := setup.exists_ends_giveUp world
  exact .of_ends setup booked ends

theorem Kept.of_close (booked : Booked before world inFlight lastId) :
    Kept before (setup.close world) := by
  obtain ⟨marks, ends⟩ := setup.exists_ends_close world
  exact .of_ends setup booked ends

theorem Kept.of_transmit (booked : Booked before world packet.asRequest client.packetId)
    (capacity : client.capacity = Limits.packetBuffer) :
    Kept before (setup.transmit client packet next world) := by
  unfold transmit
  split
  · next frame framed =>
    rw [Client.encode, capacity] at framed
    exact .of_moveTo booked rfl ⟨capacity, framed⟩
  · exact .of_close setup booked

theorem Kept.of_beginSession (booked : Booked before world [] 0) :
    Kept before (setup.beginSession world) := by
  unfold beginSession
  exact .of_transmit setup booked rfl

/-- An attempt begins with empty books. -/
theorem booked_greet (empty : before.handle.requests = []) :
    Booked before (setup.greet before.prepared) [] 0 := by
  have unowed : (setup.voice .connecting
      (before.prepared.claimed.inPhase .connecting)).filterMap owed? = [] :=
    setup.filterMap_owed?_voice .connecting rfl
  refine ⟨_, [], setup.grows_greet_prepared before, ?_, setup.framed_voice _ _, ?_, ?_, rfl⟩
  · rw [greet_phase]
    exact .awaiting ⟨by simp, unowed, by simp⟩
  · rw [greet_requests, before.prepared_requests, empty, unowed]
    rfl
  · simp [numbered]

theorem Kept.of_beginCase (begins : setup.BeginCase before.prepared after)
    (empty : before.handle.requests = []) : Kept before after := by
  have greeted := setup.booked_greet empty
  have dialled : Booked before (setup.dial (setup.greet before.prepared)) [] 0 :=
    greeted.record (rfl : (Entry.opened setup.config.broker).event? = none) rfl rfl trivial
  cases begins with
  | cancelled => exact .of_giveUp setup greeted
  | unreachable => exact .of_giveUp setup dialled
  | linked => exact .of_beginSession setup dialled
  | pending => exact .of_moveTo dialled rfl trivial

theorem Kept.of_packetCase {packet : Inbound} (booked : Booked before world [] client.packetId)
    (capacity : client.capacity = Limits.packetBuffer)
    (follows : setup.PacketCase client (world.record (.handled packet)) packet after) :
    Kept before after := by
  have recorded : Booked before (world.record (.handled packet)) [] client.packetId :=
    booked.record rfl rfl rfl trivial
  cases follows with
  | accepted success first => exact .of_moveTo (booked.accept setup success first) rfl capacity
  | refused => exact .of_close setup recorded
  | acknowledged => exact .of_transmit setup (recorded.raise_data setup _ _) capacity
  | delivered => exact .of_moveTo (recorded.raise_data setup _ _) rfl capacity
  | released => exact .of_transmit setup recorded capacity
  | repeated | dropped | settled | subscribed | pinged => exact .of_moveTo recorded rfl capacity

/-- Every step keeps the books. -/
theorem Kept.of_stepCase (busy : world.stage.isBusy = true)
    (booked : Booked before world world.stage.inFlight world.stage.lastId)
    (fit : world.stage.Fit) (taken : setup.StepCase world after) : Kept before after := by
  cases taken with
  | served stage | begunOnce stage | begunServing stage => simp [stage, Stage.isBusy] at busy
  | linked stage =>
    rw [stage] at booked
    exact .of_beginSession setup booked
  | unreachable => exact .of_giveUp setup booked
  | sendFailed stage | sentForClose stage =>
    rw [stage] at booked fit
    exact .of_close setup (booked.hand fit.2 _)
  | sentForTurn stage =>
    rw [stage] at booked fit
    exact .of_beginTurn (booked.hand fit.2 _) fit.1
  | sentForDrain stage =>
    rw [stage] at booked fit
    exact .of_moveTo (booked.hand fit.2 _) rfl fit.1
  | unreadable | crowded | hungUp | linkFailed => exact .of_close setup booked
  | @drained client rested stage reads =>
    rw [stage] at booked fit
    obtain ⟨sameId, sameCapacity⟩ := Client.frame_of_next reads
    exact .of_beginTurn (sameId.symm ▸ booked) (sameCapacity.trans fit)
  | @handled client rested packet after stage reads follows =>
    rw [stage] at booked fit
    obtain ⟨sameId, sameCapacity⟩ := Client.frame_of_next reads
    exact .of_packetCase setup (sameId.symm ▸ booked) (sameCapacity.trans fit) follows
  | received stage =>
    rw [stage] at booked fit
    exact .of_moveTo (booked.record rfl rfl rfl trivial) rfl fit
  | idled stage =>
    rw [stage] at booked fit
    exact .of_beginTurn booked fit
  | pinging stage =>
    rw [stage] at booked fit
    exact .of_transmit setup booked fit
  | requested stage free quiet early queued =>
    rw [stage] at booked fit
    exact .of_transmit setup (booked.take queued) fit
  | disconnecting stage =>
    rw [stage] at booked fit
    exact .of_transmit setup (booked.of_same rfl rfl rfl) fit

theorem Kept.call (kept : Kept before world) (busy : world.stage.isBusy = true) (request : Call) :
    Kept before (world.call request).2 := by
  obtain ⟨booked, fit⟩ := kept.1 busy
  refine ⟨fun _ => ⟨booked.call request, fit⟩, fun ended => ?_⟩
  exact absurd (busy.symm.trans ended) nofun

theorem Kept.beside (kept : Kept before world) (busy : world.stage.isBusy = true)
    (left : world.Beside after) : Kept before after := by
  obtain ⟨booked, fit⟩ := kept.1 busy
  have same : Booked before after world.stage.inFlight world.stage.lastId :=
    booked.of_same left.trace (by rw [left.handle]) (by rw [left.handle])
  have stillBusy := left.isBusy_eq.trans busy
  refine ⟨fun _ => ?_, fun ended => absurd (stillBusy.symm.trans ended) nofun⟩
  rcases left.stage with stage | stage
  · rw [stage]
    exact ⟨same, fit⟩
  · rw [stage, Stage.inFlight_waiting, Stage.lastId_waiting, Stage.fit_waiting]
    exact ⟨same, fit⟩

/-- Every attempt that finds the queue empty keeps its books. -/
theorem Attempt.kept (attempt : setup.Attempt before world)
    (empty : before.handle.requests = []) : Kept before world := by
  refine attempt.step_induction setup (motive := Kept before) ?_ ?_ ?_ ?_
  · exact fun due begins => .of_beginCase setup begins empty
  · exact fun busy kept taken => .of_stepCase setup busy (kept.1 busy).1 (kept.1 busy).2 taken
  · exact fun request busy kept => kept.call busy request
  · exact fun busy kept left => kept.beside busy left

section

variable {setup} {handlerState : σ} {opens : List Outcome} {history : List Move}
  (attempt : setup.Attempt (setup.play (.initial handlerState opens) history) world)

include attempt

theorem Attempt.kept_since : Kept (setup.play (.initial handlerState opens) history) world :=
  attempt.kept setup (attempt.due.requests_eq_nil (setup.sound_play handlerState opens history))

/-- What an attempt of a run has served for its callers. -/
theorem Attempt.served :
    Served (world.since (setup.play (.initial handlerState opens) history))
      world.stage.inFlight := by
  obtain ⟨underway, ended⟩ := attempt.kept_since
  cases busy : world.stage.isBusy with
  | true =>
    obtain ⟨⟨entries, taken, grows, ledger⟩, -⟩ := underway busy
    have served : Served (entries ++ []) world.stage.inFlight :=
      ledger.served nofun rfl rfl nofun List.prefix_rfl
    rwa [List.append_nil, ← grows.since_eq] at served
  | false =>
    obtain ⟨⟨entries, grows, served, -⟩, -⟩ := ended busy
    have nothing : world.stage.inFlight = [] := by
      cases stage : world.stage <;> simp_all [Stage.isBusy, Stage.inFlight]
    rwa [grows.since_eq, nothing]

/-- What is owed to the calls of an attempt is owed to those of its session: all others are
refused. -/
theorem Attempt.owed_inSession :
    (inSession (world.since (setup.play (.initial handlerState opens) history))).filterMap owed? =
      (world.since (setup.play (.initial handlerState opens) history)).filterMap owed? := by
  obtain ⟨underway, ended⟩ := attempt.kept_since
  cases busy : world.stage.isBusy with
  | true =>
    obtain ⟨⟨entries, taken, grows, ledger⟩, -⟩ := underway busy
    have same : (inSession (entries ++ [])).filterMap owed? = entries.filterMap owed? :=
      ledger.staged.owed_inSession nofun rfl
    rwa [List.append_nil, ← grows.since_eq] at same
  | false =>
    obtain ⟨⟨entries, grows, -, same⟩, -⟩ := ended busy
    rwa [grows.since_eq]

/-- While an attempt is under way, what is owed to its calls was given to the link, is in
flight, or is queued. -/
theorem Attempt.accounted (busy : world.stage.isBusy = true) :
    ((world.since (setup.play (.initial handlerState opens) history)).filterMap request? ++
        world.stage.inFlight).length + world.handle.requests.length =
      ((world.since (setup.play (.initial handlerState opens) history)).filterMap owed?).length := by
  obtain ⟨⟨entries, taken, grows, ledger⟩, -⟩ := attempt.kept_since.1 busy
  rw [grows.since_eq, ledger.handed, ledger.owed, numbered, List.length_mapIdx,
    List.length_append, List.length_map]

end

/-- In every attempt of a run, the publishes and subscriptions that are given to the link
are those accepted between the acceptance of its session and the end of it, in their order
and numbered from one, however sends end. None comes before the acceptance, and what is
still queued at the end is dropped. An identifier that is not on the wire does not show. -/
theorem Attempt.requests_follow_calls {handlerState : σ} {opens : List Outcome}
    {history : List Move}
    (attempt : setup.Attempt (setup.play (.initial handlerState opens) history) world) :
    Served (world.since (setup.play (.initial handlerState opens) history))
        world.stage.inFlight ∧
      (world.stage.isBusy = false → world.handle.requests = []) ∧
      ∀ (message : Publish) (packetId : Option UInt16) (capacity : Nat),
        message.qos = .atMostOnce →
          (Outbound.publish { message with packetId }).encode capacity =
            (Outbound.publish message).encode capacity := by
  refine ⟨attempt.served, fun rested => (attempt.kept_since.2 rested).2, ?_⟩
  exact fun message packetId capacity qos => Publish.encode_of_atMostOnce qos packetId capacity

/-- Three requests are accepted in the session, and the first is sent before its end. -/
theorem Attempt.greeter_requests :
    Served ((greeter.play .asked (.step :: Move.shortSession)).since .asked)
        (greeter.play .asked (.step :: Move.shortSession)).stage.inFlight ∧
      (greeter.play .asked (.step :: Move.shortSession)).handle.requests = [] ∧
      (((greeter.play .asked (.step :: Move.shortSession)).since .asked).filterMap request? =
          [.publish ⟨"hello", [1], .atLeastOnce, some 1, false, false⟩] ∧
        ((inSession ((greeter.play .asked (.step :: Move.shortSession)).since .asked)).filterMap
          owed?).length = 3) := by
  have attempt : greeter.Attempt (greeter.play (.initial 0 []) [.ask .once])
      (greeter.play .asked (.step :: Move.shortSession)) := greeter_shortSession
  obtain ⟨served, dropped, -⟩ := Attempt.requests_follow_calls greeter attempt
  exact ⟨served, dropped (by decide +kernel), by decide +kernel⟩

end Setup

end Uplink
