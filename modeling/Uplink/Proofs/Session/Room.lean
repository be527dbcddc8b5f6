import Uplink.Proofs.Packet.Oversize
import Uplink.Proofs.Session.Delivery

/-!
# Room to receive

The receive buffer of a client is filled at its end and released from its front, and what
was handed out stays in it until the next of the two. `Client.Tidy` is what these operations
keep between them. From it follows that the buffer does not wedge: when no packet can be
handed out, there is room to receive more, and when one is handed out, at least its header
is released. `Trial.Roomy` says so of every moment of a trial.
-/

namespace Uplink

/-- A link gives up at most what there is room for. -/
theorem Link.length_le_of_receive? {link after : Link} {room : Nat} {bytes : Bytes}
    (arrives : link.receive? room = some (.ok bytes, after)) : bytes.length ≤ room := by
  unfold receive? at arrives
  split at arrives
  · cases arrives
    exact List.length_take_le room _
  · cases arrives
    exact List.length_take_le room _
  · cases arrives
    exact Nat.zero_le room
  · cases arrives
  · cases arrives

namespace Client

/-- What was handed out last is in the buffer, and what is in the buffer fits it. -/
structure Tidy (capacity : Nat) (client : Client) : Prop where
  capacityKept : client.capacity = capacity
  consumed_le : client.consumed ≤ client.buffered.length
  buffered_le : client.buffered.length ≤ capacity

variable {capacity : Nat} {client other : Client}

theorem length_unread_le (client : Client) : client.unread.length ≤ client.buffered.length := by
  rw [unread, List.length_drop]
  exact Nat.sub_le _ _

theorem tidy_start (options : SessionOptions) (capacity : Nat) (now : Micros) :
    (start options capacity now).Tidy capacity :=
  ⟨rfl, Nat.le_refl 0, Nat.zero_le capacity⟩

/-- Only the buffer counts. -/
theorem Tidy.of_store (tidy : client.Tidy capacity) (same : other.store = client.store) :
    other.Tidy capacity := by
  simp only [store, Prod.mk.injEq] at same
  obtain ⟨sameCapacity, buffered, consumed⟩ := same
  refine ⟨sameCapacity.trans tidy.capacityKept, ?_, ?_⟩
  · rw [buffered, consumed]
    exact tidy.consumed_le
  · rw [buffered]
    exact tidy.buffered_le

theorem Tidy.release (tidy : client.Tidy capacity) : client.release.Tidy capacity :=
  ⟨tidy.capacityKept, Nat.zero_le _, Nat.le_trans client.length_unread_le tidy.buffered_le⟩

/-- What there is room for can be taken in. -/
theorem Tidy.absorb (tidy : client.Tidy capacity) {bytes : Bytes}
    (fits : bytes.length ≤ client.room) : (client.absorb bytes).Tidy capacity := by
  obtain ⟨capacityKept, consumed_le, buffered_le⟩ := tidy
  rw [room, capacityKept] at fits
  have filled : (client.absorb bytes).buffered.length = client.buffered.length + bytes.length :=
    List.length_append
  refine ⟨capacityKept, ?_, ?_⟩
  · rw [filled]
    exact Nat.le_add_right_of_le consumed_le
  · rw [filled]
    omega

/-- What is handed out next is in front of the unread bytes; without a packet it is nothing. -/
theorem exists_client_next (client : Client) : ∃ length ≤ client.unread.length,
    client.next.2 = { client.release with consumed := length } := by
  match verdict : Frame.length? client.unread client.capacity with
  | .error fault => exact ⟨0, Nat.zero_le _, congrArg Prod.snd (next_of_fault verdict)⟩
  | .ok none => exact ⟨0, Nat.zero_le _, congrArg Prod.snd (next_of_incomplete verdict)⟩
  | .ok (some length) =>
    exact ⟨length, (Frame.length?_bounds verdict).2, congrArg Prod.snd (next_of_complete verdict)⟩

theorem Tidy.next (tidy : client.Tidy capacity) : client.next.2.Tidy capacity := by
  obtain ⟨length, within, client⟩ := client.exists_client_next
  rw [client]
  exact ⟨tidy.capacityKept, within, tidy.release.buffered_le⟩

/-- Asking for a packet takes what was handed out before off the front. -/
theorem buffered_next (client : Client) :
    client.next.2.buffered = client.buffered.drop client.consumed := by
  obtain ⟨length, -, client⟩ := client.exists_client_next
  rw [client]
  rfl

/-- A client only finds too large what it has received so. -/
theorem next_eq_tooLarge_iff :
    client.next.1 = .error .payloadTooLarge ↔ Frame.TooLarge client.capacity client.unread := by
  constructor
  · intro fails
    rcases fault_of_next fails with unframed | ⟨length, complete, undecodable⟩
    · exact .inl (Frame.length?_eq_tooLarge_iff.mp unframed)
    · exact .inr ⟨length, complete, Inbound.decode_eq_tooLarge_iff.mp undecodable⟩
  · rintro (oversized | ⟨length, complete, overfull⟩)
    · rw [next_of_fault (Frame.length?_eq_tooLarge_iff.mpr oversized)]
    · rw [next_of_complete complete, Inbound.decode_eq_tooLarge_iff.mpr overfull]
      rfl

/-- Bytes that are no complete frame leave room in every buffer that a header fits. -/
theorem room_of_incomplete (wide : 5 ≤ client.capacity)
    (waits : Frame.length? client.unread client.capacity = .ok none) :
    client.release.room ≠ 0 := by
  have short := Frame.length_lt_of_incomplete wide waits
  rw [room, capacity_release, buffered_release]
  omega

end Client

namespace Trial

open Client

variable {capacity : Nat} {trial : Trial}

theorem length_received_le (trial : Trial) :
    (trial.received .fill).length ≤ trial.client.release.room := by
  simp only [received]
  split
  · exact Nat.zero_le _
  · split
    · next arrives => exact Link.length_le_of_receive? arrives
    · exact Nat.zero_le _

theorem client_next (trial : Trial) : (trial.perform .next).2.client = trial.client.next.2 := by
  simp only [perform, next]

/-- Both operations that release what was handed out leave the rest in front. -/
theorem buffered_perform {step : TrialStep} (releases : step = .fill ∨ step = .next) :
    (trial.perform step).2.client.buffered =
      trial.client.buffered.drop trial.client.consumed ++ trial.received step := by
  rcases releases with rfl | rfl
  · rw [perform, client_fill, Client.absorb, buffered_release, unread]
  · have silent : trial.received .next = [] := rfl
    rw [client_next, silent, List.append_nil, buffered_next]

/-- Every operation keeps the buffer tidy. -/
theorem tidy_perform (tidy : trial.client.Tidy capacity) (step : TrialStep) :
    (trial.perform step).2.client.Tidy capacity := by
  cases step with
  | fill =>
    rw [perform, client_fill]
    exact tidy.release.absorb trial.length_received_le
  | next =>
    rw [client_next]
    exact tidy.next
  | _ => exact tidy.of_store (trial.store_perform (by simp) (by simp))

/-- A client that has room to receive does not find it wanting. -/
theorem fill_of_room (free : trial.client.release.room ≠ 0) :
    (trial.perform .fill).1 ≠ .failed (.protocol .payloadTooLarge) := by
  simp only [perform, fill, if_neg free]
  split <;> simp

/-! ## What is handed out -/

/-- Nothing was handed out because no frame is complete. -/
theorem incomplete_of_answer (answer : (trial.perform .next).1 = .packet none) :
    Frame.length? trial.client.unread trial.client.capacity = .ok none := by
  match verdict : Frame.length? trial.client.unread trial.client.capacity with
  | .error fault =>
    rw [answer_next, handedOut?_next_of_fault verdict] at answer
    cases answer
  | .ok none => rfl
  | .ok (some length) =>
    rw [answer_next, handedOut?_next_of_complete verdict,
      TrialAnswer.handing_eq_nothing_iff] at answer
    cases answer

/-- A packet that was handed out is kept until it is released, and has a header. -/
theorem complete_of_answer {packet : Inbound}
    (answer : (trial.perform .next).1 = .packet (some packet)) :
    ∃ length, 2 ≤ length ∧ length ≤ trial.client.unread.length ∧
      (trial.perform .next).2.client = { trial.client.release with consumed := length } := by
  match verdict : Frame.length? trial.client.unread trial.client.capacity with
  | .error fault =>
    rw [answer_next, handedOut?_next_of_fault verdict] at answer
    cases answer
  | .ok none =>
    rw [answer_next, handedOut?_next_of_incomplete verdict] at answer
    cases answer
  | .ok (some length) =>
    obtain ⟨header, within⟩ := Frame.length?_bounds verdict
    refine ⟨length, header, within, ?_⟩
    rw [client_next, next_of_complete verdict]

/-- A packet that is handed out takes two of the unread bytes. -/
theorem length_unread_next (trial : Trial) :
    2 * ((trial.handedOut? .next).toList.filterMap Except.toOption).length +
      (trial.perform .next).2.client.unread.length ≤ trial.client.unread.length := by
  rw [client_next]
  match verdict : Frame.length? trial.client.unread trial.client.capacity with
  | .error fault =>
    rw [handedOut?_next_of_fault verdict, next_of_fault verdict, unread_release]
    exact Nat.le_of_eq (Nat.zero_add _)
  | .ok none =>
    rw [handedOut?_next_of_incomplete verdict, next_of_incomplete verdict, unread_release]
    exact Nat.le_of_eq (Nat.zero_add _)
  | .ok (some length) =>
    obtain ⟨header, within⟩ := Frame.length?_bounds verdict
    rw [handedOut?_next_of_complete verdict, next_of_complete verdict]
    have handed : ([Inbound.decode (trial.client.unread.take length)].filterMap
        Except.toOption).length ≤ 1 := List.length_filterMap_le _ _
    have rest : ({ trial.client.release with consumed := length } : Client).unread.length =
        trial.client.unread.length - length := List.length_drop
    rw [rest, Option.toList_some]
    omega

/-- What is asked for again and again until there is no packet or a fault shows: the packets
that are handed out, and the fault. -/
inductive Drains : Trial → List Inbound → Option ProtocolError → Prop where
  | exhausted {trial : Trial} (answer : (trial.perform .next).1 = .packet none) :
      Drains trial [] none
  | failed {trial : Trial} {fault : ProtocolError}
      (answer : (trial.perform .next).1 = .failed (.protocol fault)) : Drains trial [] (some fault)
  | handed {trial : Trial} {packet : Inbound} {packets : List Inbound}
      {fault : Option ProtocolError}
      (answer : (trial.perform .next).1 = .packet (some packet))
      (later : Drains (trial.perform .next).2 packets fault) :
      Drains trial (packet :: packets) fault

/-- Asking for a packet gives one, or none, or a fault. -/
theorem answer_next_cases (trial : Trial) :
    (trial.perform .next).1 = .packet none ∨
      (∃ fault, (trial.perform .next).1 = .failed (.protocol fault)) ∨
      ∃ packet, (trial.perform .next).1 = .packet (some packet) := by
  rw [answer_next]
  match trial.handedOut? .next with
  | none => exact .inl rfl
  | some (.error fault) => exact .inr (.inl ⟨fault, rfl⟩)
  | some (.ok packet) => exact .inr (.inr ⟨packet, rfl⟩)

/-- Asking for packets comes to an end, since every packet takes at least two of the unread
bytes. -/
theorem exists_drains (trial : Trial) :
    ∃ packets fault, trial.Drains packets fault ∧
      2 * packets.length ≤ trial.client.unread.length := by
  generalize size : trial.client.unread.length = unread
  induction unread using Nat.strongRecOn generalizing trial with
  | ind unread ih =>
    rcases trial.answer_next_cases with nothing | ⟨fault, fails⟩ | ⟨packet, handed⟩
    · exact ⟨[], none, .exhausted nothing, Nat.zero_le _⟩
    · exact ⟨[], some fault, .failed fails, Nat.zero_le _⟩
    · obtain ⟨length, header, within, client⟩ := complete_of_answer handed
      have rest : (trial.perform .next).2.client.unread.length = unread - length := by
        rw [client, ← size, Client.unread, List.length_drop]
        rfl
      obtain ⟨packets, fault, drains, few⟩ :=
        ih (unread - length) (by omega) (trial.perform .next).2 rest
      refine ⟨packet :: packets, fault, .handed handed drains, ?_⟩
      rw [List.length_cons]
      omega

end Trial

namespace Transcript

variable {capacity : Nat} {trial : Trial} {steps : List TrialStep} {step : TrialStep}

theorem ofSteps_concat (trial : Trial) (steps : List TrialStep) (step : TrialStep) :
    ofSteps trial (steps ++ [step]) = (ofSteps trial steps).perform step := by
  rw [ofSteps, List.foldl_append]
  rfl

/-- The buffer is tidy at every moment. -/
theorem tidy_ofSteps (tidy : trial.client.Tidy capacity) (steps : List TrialStep) :
    (ofSteps trial steps).trial.client.Tidy capacity := by
  induction steps using List.reverseRecOn with
  | nil => exact tidy
  | append_singleton steps step ih =>
    rw [ofSteps_concat]
    exact Trial.tidy_perform ih step

/-- What was handed out stays in place until the next of the two operations that release
it. -/
theorem store_ofSteps (unfilled : .fill ∉ steps) (unasked : .next ∉ steps) :
    (ofSteps trial steps).trial.client.store = trial.client.store := by
  induction steps using List.reverseRecOn with
  | nil => rfl
  | append_singleton steps step ih =>
    simp only [List.mem_append, List.mem_singleton, not_or] at unfilled unasked
    rw [ofSteps_concat]
    exact (Trial.store_perform _ (Ne.symm unfilled.2) (Ne.symm unasked.2)).trans
      (ih unfilled.1 unasked.1)

/-- An incomplete frame stays as it is until more is received. -/
theorem inbox_ofSteps_of_incomplete
    (waits : Frame.length? trial.client.unread trial.client.capacity = .ok none)
    (unfilled : .fill ∉ steps) : (ofSteps trial steps).trial.client.inbox = trial.client.inbox := by
  induction steps using List.reverseRecOn with
  | nil => rfl
  | append_singleton steps step ih =>
    simp only [List.mem_append, List.mem_singleton, not_or] at unfilled
    have same := ih unfilled.1
    rw [ofSteps_concat]
    refine .trans ?_ same
    by_cases asks : step = .next
    · subst asks
      obtain ⟨sameCapacity, sameUnread⟩ := Prod.mk.inj same
      rw [← sameCapacity, ← sameUnread] at waits
      rw [perform, Trial.client_next, Client.next_of_incomplete waits]
      rfl
    · exact Trial.inbox_perform _ (Ne.symm unfilled.2) asks

/-- Without receiving, every packet that is handed out takes two of the unread bytes. -/
theorem length_answers_le (unfilled : .fill ∉ steps) :
    2 * ((ofSteps trial steps).answers.filterMap Except.toOption).length +
      (ofSteps trial steps).trial.client.unread.length ≤ trial.client.unread.length := by
  induction steps using List.reverseRecOn with
  | nil => exact Nat.le_of_eq (Nat.zero_add _)
  | append_singleton steps step ih =>
    simp only [List.mem_append, List.mem_singleton, not_or] at unfilled
    have few := ih unfilled.1
    rw [ofSteps_concat]
    generalize ofSteps trial steps = transcript at few ⊢
    simp only [perform, List.filterMap_append, List.length_append]
    by_cases asks : step = .next
    · subst asks
      have takes := transcript.trial.length_unread_next
      omega
    · have silent : transcript.trial.handedOut? step = none := by
        cases step with
        | next => exact absurd rfl asks
        | _ => rfl
      have same := congrArg Prod.snd (transcript.trial.inbox_perform (Ne.symm unfilled.2) asks)
      have unread : (transcript.trial.perform step).2.client.unread =
          transcript.trial.client.unread := same
      rw [silent, unread]
      exact few

end Transcript

/-- What the receive buffer of a client is good for at a moment of its trial. -/
structure Trial.Roomy (capacity : Nat) (trial : Trial) : Prop where
  /-- What was handed out last is in the buffer, and what is in the buffer fits it. -/
  tidy : trial.client.Tidy capacity
  /-- Once no packet can be handed out, the buffer has free space, and receiving does not
  find it too small, whatever is done before. -/
  free : (trial.perform .next).1 = .packet none →
    (trial.perform .next).2.client.buffered.length < capacity ∧
      ∀ between, .fill ∉ between →
        ((Transcript.ofSteps (trial.perform .next).2 between).trial.perform .fill).1 ≠
          .failed (.protocol .payloadTooLarge)
  /-- A packet that was handed out is released by the next of the two operations that do so,
  whatever is done before: at least two bytes leave the front of the buffer. -/
  released : ∀ packet, (trial.perform .next).1 = .packet (some packet) →
    ∀ between, .fill ∉ between → .next ∉ between →
      let held := (Transcript.ofSteps (trial.perform .next).2 between).trial
      ∃ count, 2 ≤ count ∧ count ≤ held.client.buffered.length ∧
        ∀ step, step = .fill ∨ step = .next →
          (held.perform step).2.client.buffered =
            held.client.buffered.drop count ++ held.received step
  /-- Between two receptions at most one packet is handed out for two bytes. -/
  few : ∀ steps, .fill ∉ steps →
    2 * ((Transcript.ofSteps trial steps).answers.filterMap Except.toOption).length ≤
      trial.client.buffered.length
  /-- Asking for packets ends with none or a fault after as many packets at most. -/
  drains : ∃ packets fault, trial.Drains packets fault ∧
    packets.length ≤ trial.client.buffered.length / 2

namespace Transcript

variable {capacity : Nat} {trial : Trial}

/-- A tidy buffer of five bytes or more does not wedge. -/
theorem roomy_of_tidy (wide : 5 ≤ capacity) (tidy : trial.client.Tidy capacity) :
    trial.Roomy capacity := by
  have unread := trial.client.length_unread_le
  refine ⟨tidy, fun nothing => ?_, fun packet handed between unfilled unasked => ?_,
    fun steps unfilled => ?_, ?_⟩
  · have waits := Trial.incomplete_of_answer nothing
    have client : (trial.perform .next).2.client = trial.client.release := by
      rw [Trial.client_next, Client.next_of_incomplete waits]
    refine ⟨?_, fun between unfilled => ?_⟩
    · rw [client, Client.buffered_release]
      exact Frame.length_lt_of_incomplete wide (tidy.capacityKept ▸ waits)
    · -- Until more is received, the unread bytes are those that were no complete frame.
      have still : (ofSteps (trial.perform .next).2 between).trial.client.inbox =
          (trial.perform .next).2.client.inbox :=
        inbox_ofSteps_of_incomplete (client ▸ waits) unfilled
      rw [client, Client.inbox, Client.inbox, Prod.mk.injEq] at still
      obtain ⟨sameCapacity, sameUnread⟩ := still
      refine Trial.fill_of_room (Client.room_of_incomplete ?_ ?_)
      · rw [sameCapacity, Client.capacity_release, tidy.capacityKept]
        exact wide
      · rw [sameCapacity, sameUnread]
        exact waits
  · obtain ⟨length, header, within, client⟩ := Trial.complete_of_answer handed
    have same : (ofSteps (trial.perform .next).2 between).trial.client.store =
        (trial.perform .next).2.client.store := store_ofSteps unfilled unasked
    rw [client] at same
    simp only [Client.store, Prod.mk.injEq] at same
    obtain ⟨-, buffered, consumed⟩ := same
    refine ⟨length, header, ?_, fun step releases => ?_⟩
    · rw [buffered]
      exact within
    · rw [Trial.buffered_perform releases, consumed]
  · have taken : _ ≤ trial.client.unread.length := length_answers_le unfilled
    omega
  · obtain ⟨packets, fault, drains, taken⟩ := trial.exists_drains
    exact ⟨packets, fault, drains, by omega⟩

/-- The receive buffer of a client does not wedge at any moment. -/
theorem roomy_ofSteps (wide : 5 ≤ capacity) (options : SessionOptions) (start now : Micros)
    (link : Link) (steps : List TrialStep) :
    (ofSteps { client := Client.start options capacity start, link, now } steps).trial.Roomy
      capacity :=
  roomy_of_tidy wide (tidy_ofSteps (Client.tidy_start options capacity start) steps)

/-- Four bytes would not do: a header that is cut fills them. -/
example : Frame.length? [0x30, 0x80, 0x80, 0x80] 4 = .ok none := rfl

end Transcript

end Uplink
