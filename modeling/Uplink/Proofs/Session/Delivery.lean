import Uplink.Proofs.Wire.Framing
import Uplink.Session.Trial
import Mathlib.Data.List.Induction

/-!
# What a client hands out

A client sees its stream in the pieces in which the link gives it up, and releases what
it handed out only at its next operation. `Transcript` follows a trial and keeps what
was received and what was handed out. Every transcript splits the received bytes into
frames that were handed out, each once and in order, and bytes that are still unread.
The frames are those of `Frame.parse`.
-/

namespace Uplink

namespace Client

/-- The bytes that were received and not handed out. -/
def unread (client : Client) : Bytes := client.buffered.drop client.consumed

/-- The receiving side of a client: the size of its buffer and what is unread in it. -/
def inbox (client : Client) : Nat × Bytes := (client.capacity, client.unread)

/-- All of the receive buffer: its size, what is in it, and how much of that was handed out
last. -/
def store (client : Client) : Nat × Bytes × Nat :=
  (client.capacity, client.buffered, client.consumed)

/-- The same buffer has the same bytes unread. -/
theorem inbox_of_store {client other : Client} (same : client.store = other.store) :
    client.inbox = other.inbox := by
  simp only [store, Prod.mk.injEq] at same
  obtain ⟨capacity, buffered, consumed⟩ := same
  rw [inbox, inbox, unread, unread, capacity, buffered, consumed]

@[simp] theorem buffered_release (client : Client) : client.release.buffered = client.unread := rfl

@[simp] theorem unread_release (client : Client) : client.release.unread = client.unread := rfl

@[simp] theorem capacity_release (client : Client) :
    client.release.capacity = client.capacity := rfl

@[simp] theorem absorb_nil (client : Client) : client.absorb [] = client := by
  rw [absorb, List.append_nil]

/-- What is absorbed into a released buffer follows what was unread. -/
theorem inbox_absorb_release (client : Client) (bytes : Bytes) :
    (client.release.absorb bytes).inbox = (client.capacity, client.unread ++ bytes) := rfl

section

variable {client rested : Client}

theorem next_of_fault {fault : ProtocolError}
    (verdict : Frame.length? client.unread client.capacity = .error fault) :
    client.next = (.error fault, client.release) := by
  simp only [next, buffered_release, capacity_release, verdict]

theorem next_of_incomplete
    (verdict : Frame.length? client.unread client.capacity = .ok none) :
    client.next = (.ok none, client.release) := by
  simp only [next, buffered_release, capacity_release, verdict]

theorem next_of_complete {length : Nat}
    (verdict : Frame.length? client.unread client.capacity = .ok (some length)) :
    client.next = ((Inbound.decode (client.unread.take length)).map some,
      { client.release with consumed := length }) := by
  simp only [next, buffered_release, capacity_release, verdict]

/-- Without a packet to hand out, no frame is complete, and the unread bytes stay. -/
theorem incomplete_of_next (reads : client.next = (.ok none, rested)) :
    Frame.length? client.unread client.capacity = .ok none ∧ rested.unread = client.unread := by
  match verdict : Frame.length? client.unread client.capacity with
  | .error fault => simp [next_of_fault verdict] at reads
  | .ok none =>
    rw [next_of_incomplete verdict, Prod.mk.injEq] at reads
    exact ⟨rfl, by rw [← reads.2, unread_release]⟩
  | .ok (some length) =>
    rw [next_of_complete verdict, Prod.mk.injEq] at reads
    cases decoded : Inbound.decode (client.unread.take length) <;>
      simp [decoded, Except.map] at reads

/-- A packet that is handed out is the first complete frame of the unread bytes. -/
theorem complete_of_next {packet : Inbound} (reads : client.next = (.ok (some packet), rested)) :
    ∃ length, Frame.length? client.unread client.capacity = .ok (some length) ∧
      Inbound.decode (client.unread.take length) = .ok packet ∧
      rested.unread = client.unread.drop length := by
  match verdict : Frame.length? client.unread client.capacity with
  | .error fault => simp [next_of_fault verdict] at reads
  | .ok none => simp [next_of_incomplete verdict] at reads
  | .ok (some length) =>
    rw [next_of_complete verdict, Prod.mk.injEq] at reads
    refine ⟨length, rfl, ?_, by rw [← reads.2]; rfl⟩
    cases decoded : Inbound.decode (client.unread.take length) <;>
      simp [decoded, Except.map] at reads
    rw [reads.1]

/-- A fault is one of the framing, or of the first complete frame. -/
theorem fault_of_next {fault : ProtocolError} (reads : client.next.1 = .error fault) :
    Frame.length? client.unread client.capacity = .error fault ∨
      ∃ length, Frame.length? client.unread client.capacity = .ok (some length) ∧
        Inbound.decode (client.unread.take length) = .error fault := by
  match verdict : Frame.length? client.unread client.capacity with
  | .error other =>
    rw [next_of_fault verdict] at reads
    cases reads
    exact .inl rfl
  | .ok none => simp [next_of_incomplete verdict] at reads
  | .ok (some length) =>
    rw [next_of_complete verdict] at reads
    refine .inr ⟨length, rfl, ?_⟩
    cases decoded : Inbound.decode (client.unread.take length) <;>
      simp_all [Except.map]

end

end Client

/-- What an answer of `Trial.next` hands out: a packet, or the fault in its place. -/
def TrialAnswer.handedOut? : TrialAnswer → Option (Except ProtocolError Inbound)
  | .packet (some inbound) => some (.ok inbound)
  | .failed (.protocol fault) => some (.error fault)
  | _ => none

/-- The answer of `Trial.next` that hands something out, or nothing. -/
def TrialAnswer.handing : Option (Except ProtocolError Inbound) → TrialAnswer
  | some (.ok inbound) => .packet (some inbound)
  | some (.error fault) => .failed (.protocol fault)
  | none => .packet none

/-- Only nothing is handed out by the answer without a packet. -/
theorem TrialAnswer.handing_eq_nothing_iff (result : Option (Except ProtocolError Inbound)) :
    handing result = .packet none ↔ result = none := by
  match result with
  | some (.ok _) | some (.error _) | none => simp [handing]

namespace Trial

/-- The bytes that the link gives up during an operation. -/
def received (trial : Trial) : TrialStep → Bytes
  | .fill =>
    let room := trial.client.release.room
    if room = 0 then []
    else match trial.link.receive? room with
      | some (.ok bytes, _) => bytes
      | _ => []
  | _ => []

/-- What an operation hands out. Only `next` hands out anything. -/
def handedOut? (trial : Trial) : TrialStep → Option (Except ProtocolError Inbound)
  | .next => (trial.perform .next).1.handedOut?
  | _ => none

/-- Sending leaves the receive buffer alone, however it ends. -/
@[simp] theorem store_send (trial : Trial) (packet : Outbound) (reply : TrialAnswer) :
    (trial.send packet reply).2.client.store = trial.client.store := by
  unfold send
  split
  · rfl
  · split <;> rfl

@[simp] theorem store_publish (trial : Trial) (topic : String) (payload : Bytes) (qos : QoS) :
    (trial.publish topic payload qos).2.client.store = trial.client.store := by
  simp only [publish, store_send]
  rfl

@[simp] theorem store_subscribe (trial : Trial) (topic : String) (qos : QoS) :
    (trial.subscribe topic qos).2.client.store = trial.client.store := by
  simp only [subscribe, store_send]
  rfl

@[simp] theorem store_bump (trial : Trial) (count : Nat) (last : TrialAnswer) :
    (trial.bump count last).2.client.store = trial.client.store := by
  induction count generalizing trial last with
  | zero => rfl
  | succ count ih =>
    simp only [bump]
    rw [ih]
    exact store_publish trial _ _ _

/-- Every operation but `fill` and `next` leaves the receive buffer alone. -/
theorem store_perform (trial : Trial) {step : TrialStep} (notFill : step ≠ .fill)
    (notNext : step ≠ .next) : (trial.perform step).2.client.store = trial.client.store := by
  cases step with
  | fill => exact absurd rfl notFill
  | next => exact absurd rfl notNext
  | connect => exact store_send trial _ _
  | publish topic payload qos => exact store_publish trial topic payload qos
  | subscribe topic qos => exact store_subscribe trial topic qos
  | ping => exact store_send trial _ _
  | pubAck packetId => exact store_send trial _ _
  | pubRel packetId => exact store_send trial _ _
  | disconnect => exact store_send trial _ _
  | bump count => exact store_bump trial count _
  | deliver | sendMode | advance | abort | timeLeft => rfl

theorem inbox_perform (trial : Trial) {step : TrialStep} (notFill : step ≠ .fill)
    (notNext : step ≠ .next) : (trial.perform step).2.client.inbox = trial.client.inbox :=
  Client.inbox_of_store (trial.store_perform notFill notNext)

/-- Receiving releases what was handed out and puts what the link gave up behind the rest,
also when nothing was given up because the operation failed or was abandoned. -/
theorem client_fill (trial : Trial) :
    trial.fill.2.client = trial.client.release.absorb (trial.received .fill) := by
  simp only [fill, received]
  split
  · exact (Client.absorb_nil _).symm
  · split
    · next waits => simp [waits]
    · next fault _ fails => simp [fails]
    · next _ closes => simp [closes]
    · next bytes _ _ arrives => simp [arrives]

theorem inbox_fill (trial : Trial) :
    trial.fill.2.client.inbox =
      (trial.client.capacity, trial.client.unread ++ trial.received .fill) := by
  rw [client_fill, Client.inbox_absorb_release]

/-- `next` answers with what it hands out. -/
theorem answer_next (trial : Trial) :
    (trial.perform .next).1 = .handing (trial.handedOut? .next) := by
  simp only [handedOut?, perform, next]
  match trial.client.next with
  | (.ok (some _), _) | (.ok none, _) | (.error _, _) => rfl

section

variable {trial : Trial}

theorem handedOut?_next_of_fault {fault : ProtocolError}
    (verdict : Frame.length? trial.client.unread trial.client.capacity = .error fault) :
    trial.handedOut? .next = some (.error fault) := by
  simp only [handedOut?, perform, next, Client.next_of_fault verdict, TrialAnswer.handedOut?]

theorem handedOut?_next_of_incomplete
    (verdict : Frame.length? trial.client.unread trial.client.capacity = .ok none) :
    trial.handedOut? .next = none := by
  simp only [handedOut?, perform, next, Client.next_of_incomplete verdict, TrialAnswer.handedOut?]

/-- A complete frame is handed out as it reads, also when it does not read as a packet. -/
theorem handedOut?_next_of_complete {length : Nat}
    (verdict : Frame.length? trial.client.unread trial.client.capacity = .ok (some length)) :
    trial.handedOut? .next = some (Inbound.decode (trial.client.unread.take length)) := by
  simp only [handedOut?, perform, next, Client.next_of_complete verdict]
  cases Inbound.decode (trial.client.unread.take length) <;> rfl

end

end Trial

/-- A trial with what it received and what it handed out so far. -/
structure Transcript where
  trial : Trial
  received : Bytes
  answers : List (Except ProtocolError Inbound)

namespace Transcript

/-- Follow one operation. -/
def perform (transcript : Transcript) (step : TrialStep) : Transcript where
  trial := (transcript.trial.perform step).2
  received := transcript.received ++ transcript.trial.received step
  answers := transcript.answers ++ (transcript.trial.handedOut? step).toList

/-- Follow a trial through operations. -/
def ofSteps (trial : Trial) (steps : List TrialStep) : Transcript :=
  steps.foldl perform ⟨trial, [], []⟩

/-- The received bytes are the frames that were handed out and what is unread, and this
is how the whole stream is cut, whatever follows. Answers beyond the frames repeat the
fault of framing that the unread bytes show. -/
structure Split (capacity : Nat) (transcript : Transcript) (frames : List Bytes)
    (faults : List ProtocolError) : Prop where
  capacityKept : transcript.trial.client.capacity = capacity
  receivedSplit : transcript.received = frames.flatten ++ transcript.trial.client.unread
  cut : Frame.Cut capacity transcript.received frames transcript.trial.client.unread
  answered : transcript.answers = frames.map Inbound.decode ++ faults.map .error
  repeated : ∀ fault ∈ faults,
    Frame.length? transcript.trial.client.unread capacity = .error fault

section

variable {capacity : Nat} {transcript : Transcript} {frames : List Bytes}
  {faults : List ProtocolError}

/-- Faults were only answered if the unread bytes show one. -/
theorem Split.faults_eq_nil (split : Split capacity transcript frames faults)
    (noFault : ∀ fault, Frame.length? transcript.trial.client.unread capacity ≠ .error fault) :
    faults = [] :=
  List.eq_nil_iff_forall_not_mem.mpr fun fault isFault =>
    noFault fault (split.repeated fault isFault)

/-- An operation that neither receives nor hands out changes nothing. -/
theorem Split.of_idle (split : Split capacity transcript frames faults) {step : TrialStep}
    (inbox : (transcript.trial.perform step).2.client.inbox = transcript.trial.client.inbox)
    (received : transcript.trial.received step = [])
    (handedOut : transcript.trial.handedOut? step = none) :
    Split capacity (transcript.perform step) frames faults := by
  obtain ⟨sameCapacity, sameUnread⟩ := Prod.mk.inj inbox
  constructor
  · exact sameCapacity.trans split.capacityKept
  · simp only [perform, received, List.append_nil, sameUnread]
    exact split.receivedSplit
  · simp only [perform, received, List.append_nil, sameUnread]
    exact split.cut
  · simp only [perform, handedOut, Option.toList_none, List.append_nil]
    exact split.answered
  · simp only [perform, sameUnread]
    exact split.repeated

/-- What `fill` receives is unread behind what was unread before. -/
theorem Split.fill (split : Split capacity transcript frames faults) :
    Split capacity (transcript.perform .fill) frames faults := by
  obtain ⟨sameCapacity, unread⟩ := Prod.mk.inj transcript.trial.inbox_fill
  have unreadAfter : (transcript.trial.perform .fill).2.client.unread =
      transcript.trial.client.unread ++ transcript.trial.received .fill := unread
  constructor
  · exact sameCapacity.trans split.capacityKept
  · simp only [perform, unreadAfter, split.receivedSplit, List.append_assoc]
  · simp only [perform, unreadAfter]
    exact split.cut.append _
  · simp only [perform, Trial.handedOut?, Option.toList_none, List.append_nil]
    exact split.answered
  · intro fault isFault
    have verdict := split.repeated fault isFault
    simp only [perform, unreadAfter]
    rw [Frame.length?_append (by simp [verdict]), verdict]

/-- A complete frame moves from the unread bytes to the frames. -/
theorem Split.next_of_complete (split : Split capacity transcript frames faults) {length : Nat}
    (verdict : Frame.length? transcript.trial.client.unread capacity = .ok (some length)) :
    Split capacity (transcript.perform .next)
      (frames ++ [transcript.trial.client.unread.take length]) faults := by
  have noFaults := split.faults_eq_nil (by simp [verdict])
  have clientVerdict : Frame.length? transcript.trial.client.unread
      transcript.trial.client.capacity = .ok (some length) := by
    rw [split.capacityKept, verdict]
  have unreadAfter : (transcript.trial.perform .next).2.client.unread =
      transcript.trial.client.unread.drop length := by
    simp only [Trial.perform, Trial.next, Client.next_of_complete clientVerdict]
    rfl
  constructor
  · simp only [perform, Trial.perform, Trial.next, Client.next_of_complete clientVerdict]
    exact split.capacityKept
  · simp only [perform, Trial.received, unreadAfter, split.receivedSplit]
    simp
  · simp only [perform, Trial.received, unreadAfter, List.append_nil]
    exact split.cut.take verdict
  · simp only [perform, Trial.handedOut?_next_of_complete clientVerdict, split.answered, noFaults]
    simp
  · simp [noFaults]

/-- Without a complete frame nothing moves. -/
theorem Split.next_of_incomplete (split : Split capacity transcript frames faults)
    (verdict : Frame.length? transcript.trial.client.unread capacity = .ok none) :
    Split capacity (transcript.perform .next) frames faults := by
  have clientVerdict : Frame.length? transcript.trial.client.unread
      transcript.trial.client.capacity = .ok none := by
    rw [split.capacityKept, verdict]
  apply split.of_idle
  · simp [Trial.perform, Trial.next, Client.next_of_incomplete clientVerdict, Client.inbox]
  · rfl
  · exact Trial.handedOut?_next_of_incomplete clientVerdict

/-- A fault of framing is repeated, and nothing moves. -/
theorem Split.next_of_fault (split : Split capacity transcript frames faults)
    {fault : ProtocolError}
    (verdict : Frame.length? transcript.trial.client.unread capacity = .error fault) :
    Split capacity (transcript.perform .next) frames (faults ++ [fault]) := by
  have clientVerdict : Frame.length? transcript.trial.client.unread
      transcript.trial.client.capacity = .error fault := by
    rw [split.capacityKept, verdict]
  have unreadAfter : (transcript.trial.perform .next).2.client.unread =
      transcript.trial.client.unread := by
    simp [Trial.perform, Trial.next, Client.next_of_fault clientVerdict]
  constructor
  · simp only [perform, Trial.perform, Trial.next, Client.next_of_fault clientVerdict]
    exact split.capacityKept
  · simp only [perform, Trial.received, List.append_nil, unreadAfter]
    exact split.receivedSplit
  · simp only [perform, Trial.received, List.append_nil, unreadAfter]
    exact split.cut
  · simp [perform, Trial.handedOut?_next_of_fault clientVerdict, split.answered]
  · intro other isFault
    simp only [perform, unreadAfter]
    rcases List.mem_append.mp isFault with earlier | last
    · exact split.repeated other earlier
    · rw [List.mem_singleton.mp last]
      exact verdict

/-- Every operation keeps the received bytes split into frames and unread bytes. -/
theorem Split.perform (split : Split capacity transcript frames faults) (step : TrialStep) :
    ∃ frames faults, Split capacity (transcript.perform step) frames faults := by
  cases step with
  | fill => exact ⟨_, _, split.fill⟩
  | next =>
    match verdict : Frame.length? transcript.trial.client.unread capacity with
    | .ok (some length) => exact ⟨_, _, split.next_of_complete verdict⟩
    | .ok none => exact ⟨_, _, split.next_of_incomplete verdict⟩
    | .error fault => exact ⟨_, _, split.next_of_fault verdict⟩
  | _ => exact ⟨_, _, split.of_idle (Trial.inbox_perform _ (by simp) (by simp)) rfl rfl⟩

end

/-- Every transcript of a new client splits what it received. -/
theorem exists_split (options : SessionOptions) (capacity : Nat) (start now : Micros)
    (link : Link) (steps : List TrialStep) :
    ∃ frames faults, Split capacity
      (ofSteps { client := Client.start options capacity start, link, now } steps)
      frames faults := by
  induction steps using List.reverseRecOn with
  | nil => exact ⟨[], [], rfl, rfl, .refl capacity _, rfl, by simp⟩
  | append_singleton steps step ih =>
    obtain ⟨frames, faults, split⟩ := ih
    simp only [ofSteps, List.foldl_append, List.foldl_cons, List.foldl_nil]
    exact split.perform step

section

variable {capacity : Nat} {transcript : Transcript} {frames : List Bytes}
  {faults : List ProtocolError}

/-- A fault that was answered is what the stream shows behind the frames. -/
theorem Split.parse_append_of_repeated (split : Split capacity transcript frames faults)
    {fault : ProtocolError} (repeated : fault ∈ faults) (more : Bytes) :
    Frame.parse capacity (transcript.received ++ more) = ⟨frames, some fault⟩ := by
  rw [split.cut, Frame.parse_append_of_fault (split.repeated fault repeated)]
  simp

/-- Every answer is the reference answer of each stream that begins as received. -/
theorem Split.answer?_append (split : Split capacity transcript frames faults) (more : Bytes)
    (index : Fin transcript.answers.length) :
    (Frame.parse capacity (transcript.received ++ more)).answer? index =
      some (transcript.answers.get index) := by
  obtain ⟨index, bound⟩ := index
  simp only [List.get_eq_getElem, split.answered]
  by_cases isFrame : index < frames.length
  · rw [split.cut, Frame.Parsed.answer?_of_lt (by simp; omega)]
    simp [List.getElem_append_left, isFrame]
  · have isFault : index - frames.length < faults.length := by
      simp only [split.answered, List.length_append, List.length_map] at bound
      omega
    rw [split.parse_append_of_repeated (List.getElem_mem isFault),
      Frame.Parsed.answer?_of_le (Nat.le_of_not_lt isFrame),
      List.getElem_append_right (by simpa using isFrame)]
    simp

/-- What `next` would hand out is the next reference answer of what was received. -/
theorem Split.handedOut?_next (split : Split capacity transcript frames faults) :
    transcript.trial.handedOut? .next =
      (Frame.parse capacity transcript.received).answer? transcript.answers.length := by
  rw [split.cut.parse_eq, split.answered]
  match verdict : Frame.length? transcript.trial.client.unread capacity with
  | .error fault =>
    rw [Trial.handedOut?_next_of_fault (split.capacityKept ▸ verdict),
      Frame.parse_of_fault verdict, Frame.Parsed.answer?_of_le (by simp)]
    rfl
  | .ok none =>
    rw [Trial.handedOut?_next_of_incomplete (split.capacityKept ▸ verdict),
      Frame.parse_of_incomplete verdict, Frame.Parsed.answer?_of_le (by simp)]
    rfl
  | .ok (some length) =>
    have noFaults := split.faults_eq_nil (by simp [verdict])
    rw [Trial.handedOut?_next_of_complete (split.capacityKept ▸ verdict),
      Frame.parse_of_complete verdict, Frame.Parsed.answer?_of_lt (by simp [noFaults])]
    simp [noFaults]

/-- The frames that were handed out are the first ones of what was received. -/
theorem Split.frames_eq (split : Split capacity transcript frames faults) :
    (Frame.parse capacity transcript.received).frames.take transcript.answers.length = frames := by
  cases faults with
  | nil =>
    simp [split.cut.parse_eq, split.answered]
  | cons fault faults =>
    have parsed := split.parse_append_of_repeated (List.mem_cons_self) []
    simp only [List.append_nil] at parsed
    rw [parsed, split.answered]
    exact List.take_of_length_le (by simp)

/-- Nothing is left to answer exactly when every frame was answered and no fault of
framing is there. -/
theorem Split.answer?_eq_none_iff (split : Split capacity transcript frames faults) :
    (Frame.parse capacity transcript.received).answer? transcript.answers.length = none ↔
      (Frame.parse capacity transcript.received).fault = none ∧
        transcript.answers =
          (Frame.parse capacity transcript.received).frames.map Inbound.decode := by
  generalize parsedEq : Frame.parse capacity transcript.received = parsed
  constructor
  · intro nothing
    have behind : parsed.frames.length ≤ transcript.answers.length := by
      refine Nat.le_of_not_lt fun isFrame => ?_
      simp [Frame.Parsed.answer?_of_lt isFrame] at nothing
    have noFault : parsed.fault = none := by
      simpa [Frame.Parsed.answer?_of_le behind] using nothing
    have noFaults : faults = [] := List.eq_nil_iff_forall_not_mem.mpr fun fault isFault => by
      have repeated := split.parse_append_of_repeated isFault []
      rw [List.append_nil, parsedEq] at repeated
      simp [repeated] at noFault
    have handedOut := split.frames_eq
    rw [parsedEq, List.take_of_length_le behind] at handedOut
    exact ⟨noFault, by rw [split.answered, noFaults, handedOut, List.map_nil, List.append_nil]⟩
  · rintro ⟨noFault, answered⟩
    rw [Frame.Parsed.answer?_of_le (by simp [answered]), noFault]
    rfl

end

/-- What a client hands out is the reference parse of its stream, however the link cuts
the stream and whatever is done in between. Every answer so far is the reference answer
of each stream that begins as received, so answers behind a fault of framing repeat it.
The next answer is the next reference answer. It is "nothing" exactly when all frames
received so far were answered, each once. The bytes are those frames and the unread
rest. -/
theorem answers_follow_parse (options : SessionOptions) (capacity : Nat) (start now : Micros)
    (link : Link) (steps : List TrialStep) :
    let transcript := ofSteps { client := Client.start options capacity start, link, now } steps
    let parsed := Frame.parse capacity transcript.received
    (∀ more, ∀ index : Fin transcript.answers.length,
      (Frame.parse capacity (transcript.received ++ more)).answer? index =
        some (transcript.answers.get index)) ∧
    (transcript.trial.perform .next).1 =
      .handing (parsed.answer? transcript.answers.length) ∧
    ((transcript.trial.perform .next).1 = .packet none ↔
      parsed.fault = none ∧ transcript.answers = parsed.frames.map Inbound.decode) ∧
    transcript.received =
      (parsed.frames.take transcript.answers.length).flatten ++ transcript.trial.client.unread := by
  intro transcript parsed
  obtain ⟨frames, faults, split⟩ := exists_split options capacity start now link steps
  have nextAnswer := transcript.trial.answer_next
  rw [split.handedOut?_next] at nextAnswer
  refine ⟨split.answer?_append, nextAnswer, ?_, ?_⟩
  · rw [nextAnswer, TrialAnswer.handing_eq_nothing_iff]
    exact split.answer?_eq_none_iff
  · rw [split.frames_eq]
    exact split.receivedSplit

/-- A frame that is cut inside and two that arrive with its end. -/
example :
    (ofSteps { client := Client.start { clientId := "id" } 64 0 }
      [.deliver (.data [0x20, 2]), .deliver (.data [0, 0, 0xD0, 0, 0x90, 3, 0, 1, 1]),
        .fill, .next, .fill, .next, .next, .next, .next]).answers =
      [.ok (.connAck ⟨false, 0⟩), .ok .pingResp, .ok (.subAck ⟨1, [1]⟩)] := by
  decide

end Transcript

end Uplink
