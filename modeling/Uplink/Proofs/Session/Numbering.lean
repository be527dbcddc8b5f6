import Mathlib.Data.Nat.ModEq
import Uplink.Proofs.Session.Silence
import Uplink.Telemetry.Tag

/-!
# Numbers that are given out

Packet identifiers and tags are counted up from one and begin again at one behind the largest;
zero is never given out. `Cycles` says this of what was given out, whatever it was given out
for: the item behind `index` others has the number `index % size + 1`, and so `size` items in a
row are all different. A publish and a subscription use up an identifier each, however they
end; a call of a tag sequence gives out the tag that follows the one before.
-/

namespace Uplink

/-! ## Cycles -/

/-- Counting from `last`, where `size` is followed by one, gives out `numbers` and comes to
`now`. -/
inductive CountsUp (size : Nat) : (last now : Nat) → (numbers : List Nat) → Prop where
  | nil {last : Nat} : CountsUp size last last []
  | cons {last now : Nat} {numbers : List Nat}
      (later : CountsUp size (last % size + 1) now numbers) :
      CountsUp size last now ((last % size + 1) :: numbers)

namespace CountsUp

variable {size last now : Nat} {numbers : List Nat}

theorem single (follows : now = last % size + 1) : CountsUp size last now [now] := by
  subst follows
  exact .cons .nil

theorem append {later : Nat} {more : List Nat} (counted : CountsUp size last now numbers)
    (further : CountsUp size now later more) : CountsUp size last later (numbers ++ more) := by
  induction counted with
  | nil => exact further
  | cons _ ih => exact .cons (ih further)

/-- Only the place in the cycle is told from how many numbers were given out. -/
theorem now_mod (counted : CountsUp size last now numbers) :
    now % size = (last + numbers.length) % size := by
  induction counted with
  | nil => rfl
  | cons _ ih => rw [ih, Nat.add_assoc, Nat.mod_add_mod, Nat.add_comm 1, List.length_cons]

theorem getElem?_eq_some (counted : CountsUp size last now numbers) {index number : Nat}
    (isNumber : numbers[index]? = some number) : number = (last + index) % size + 1 := by
  induction counted generalizing index with
  | nil => cases isNumber
  | cons _ ih =>
    cases index with
    | zero =>
      cases isNumber
      rfl
    | succ index => rw [ih isNumber, Nat.add_assoc, Nat.mod_add_mod, Nat.add_comm 1]

end CountsUp

/-- What was given out is numbered in a cycle from one to `size`. -/
structure Cycles {α : Type} (number : α → Nat) (size : Nat) (given : List α) : Prop where
  /-- The number of an item is told from how many were given out before it. -/
  numbers : ∀ (index : Nat) (item : α), given[index]? = some item →
    number item = index % size + 1
  /-- As many items in a row as there are numbers are pairwise different. -/
  distinct : ∀ window, window <:+: given → window.length ≤ size → window.Nodup
  /-- Zero is not given out. -/
  positive : ∀ item ∈ given, number item ≠ 0

theorem cycles_of_countsUp {α : Type} {number : α → Nat} {size now : Nat} {given : List α}
    (counted : CountsUp size 0 now (given.map number)) : Cycles number size given := by
  have numbers (index : Nat) (item : α) (isItem : given[index]? = some item) :
      number item = index % size + 1 := by
    have isNumber : (given.map number)[index]? = some (number item) := by
      rw [List.getElem?_map, isItem, Option.map_some]
    rw [counted.getElem?_eq_some isNumber, Nat.zero_add]
  refine ⟨numbers, ?_, ?_⟩
  · rintro window ⟨front, back, rfl⟩ short
    refine List.pairwise_iff_getElem.mpr fun first second firstWithin within before same => ?_
    have numberOf (place : Nat) (inside : place < window.length) :
        number window[place] = (front.length + place) % size + 1 := by
      refine numbers _ _ ?_
      rw [List.append_assoc, List.getElem?_append_right (Nat.le_add_right _ _),
        Nat.add_sub_cancel_left, List.getElem?_append_left inside]
      exact List.getElem?_eq_getElem inside
    have numbersSame := congrArg number same
    rw [numberOf first firstWithin, numberOf second within] at numbersSame
    have places : first ≡ second [MOD size] :=
      Nat.ModEq.add_left_cancel' front.length (Nat.succ.inj numbersSame)
    exact Nat.ne_of_lt before (places.eq_of_lt_of_lt (by omega) (by omega))
  · intro item listed
    obtain ⟨index, within, rfl⟩ := List.getElem_of_mem listed
    rw [numbers index _ (List.getElem?_eq_getElem within)]
    exact Nat.succ_ne_zero _

/-! ## Tags -/

theorem Tag.toNat_next (tag : Tag) : tag.next.value.toNat = tag.value.toNat % 4294967295 + 1 := by
  have bound := tag.value.toNat_lt
  have sum : (tag.value + 1).toNat = (tag.value.toNat + 1) % 4294967296 := by
    rw [UInt32.toNat_add]
    rfl
  unfold next ofNumber?
  split
  · next proceeds =>
    have nonzero : (tag.value + 1).toNat ≠ 0 := fun zero => proceeds (UInt32.toNat_inj.mp zero)
    change (tag.value + 1).toNat = _
    omega
  · next wraps =>
    have zero : (tag.value + 1).toNat = 0 := congrArg UInt32.toNat (not_not.mp wraps)
    change 1 = _
    omega

namespace TagSequence

variable (tags : TagSequence)

/-- The tag that is given out follows the last one, or is the first. -/
theorem toNat_next : tags.next.1.value.toNat = tags.last.toNat % 4294967295 + 1 := by
  unfold next Tag.ofNumber?
  split
  · next last isLast =>
    split at isLast
    · cases isLast
      exact Tag.toNat_next _
    · cases isLast
  · next isFirst =>
    split at isFirst
    · cases isFirst
    · next zero =>
      rw [not_not.mp zero]
      rfl

theorem next_next : tags.next.2.next.1 = tags.next.1.next := by
  have isLast : Tag.ofNumber? tags.next.2.last = some tags.next.1 :=
    dif_pos tags.next.1.value_ne_zero
  rw [next, isLast]

theorem length_take (count : Nat) : (tags.take count).1.length = count := by
  induction count generalizing tags with
  | zero => rfl
  | succ count ih => exact congrArg Nat.succ (ih tags.next.2)

theorem countsUp_take (count : Nat) :
    CountsUp 4294967295 tags.last.toNat (tags.take count).2.last.toNat
      ((tags.take count).1.map (·.value.toNat)) := by
  induction count generalizing tags with
  | zero => exact .nil
  | succ count ih => exact (CountsUp.single tags.toNat_next).append (ih tags.next.2)

/-- A tag behind another one follows it. -/
theorem isChain_take (count : Nat) :
    (tags.take count).1.IsChain fun tag later => later = tag.next := by
  induction count generalizing tags with
  | zero => exact .nil
  | succ count ih =>
    cases count with
    | zero => exact .singleton _
    | succ count => exact .cons_cons tags.next_next (ih tags.next.2)

end TagSequence

/-! ## Packet identifiers -/

theorem Client.toNat_nextId (packetId : UInt16) :
    (nextId packetId).toNat = packetId.toNat % 65535 + 1 := by
  have bound := packetId.toNat_lt
  have sum : (packetId + 1).toNat = (packetId.toNat + 1) % 65536 := by
    rw [UInt16.toNat_add]
    rfl
  unfold nextId
  split
  · next wraps =>
    have zero : (packetId + 1).toNat = 0 := congrArg UInt16.toNat wraps
    change 1 = _
    omega
  · next proceeds =>
    have nonzero : (packetId + 1).toNat ≠ 0 := fun zero => proceeds (UInt16.toNat_inj.mp zero)
    omega

/-- The packet of a call that takes an identifier, under a given identifier. -/
def TrialStep.packet? : TrialStep → Option (UInt16 → Outbound)
  | .publish topic payload qos => some fun packetId => .publish { topic, payload, qos, packetId }
  | .subscribe topic qos => some fun packetId => .subscribe ⟨packetId, [(topic, qos)]⟩
  | .deliver _ | .sendMode _ | .advance _ | .connect | .ping | .pubAck _ | .pubRel _
  | .disconnect | .abort | .fill | .next | .timeLeft | .bump _ => none

/-- How many calls that take an identifier an operation stands for. -/
def TrialStep.calls : TrialStep → Nat
  | .publish .. | .subscribe .. => 1
  | .bump count => count
  | .deliver _ | .sendMode _ | .advance _ | .connect | .ping | .pubAck _ | .pubRel _
  | .disconnect | .abort | .fill | .next | .timeLeft => 0

namespace Trial

/-- A call remembers an identifier, sends its packet under it, and answers with it once the
packet is sent. -/
def CallsUnder (trial : Trial) (call : TrialStep) (packetId : UInt16) : Prop :=
  ∃ packet, call.packet? = some packet ∧
    trial.perform call = { trial with client := { trial.client with packetId } }.send
      (packet packetId) (.packetId packetId)

/-- The identifiers that an operation takes: the client remembers each of them. -/
def taken (trial : Trial) : TrialStep → List UInt16
  | .publish topic payload qos => [(trial.publish topic payload qos).2.client.packetId]
  | .subscribe topic qos => [(trial.subscribe topic qos).2.client.packetId]
  | .bump count =>
    (List.range count).map fun earlier => (trial.bump (earlier + 1) .done).2.client.packetId
  | .deliver _ | .sendMode _ | .advance _ | .connect | .ping | .pubAck _ | .pubRel _
  | .disconnect | .abort | .fill | .next | .timeLeft => []

/-- The identifiers that are taken in a trial, in their order. -/
def identifiers (trial : Trial) : List TrialStep → List UInt16
  | [] => []
  | step :: steps => trial.taken step ++ (trial.perform step).2.identifiers steps

variable (trial : Trial)

/-- However it ends, sending keeps the last identifier. -/
theorem packetId_send (packet : Outbound) (reply : TrialAnswer) :
    (trial.send packet reply).2.client.packetId = trial.client.packetId := by
  have ends := trial.send_cases packet reply
  generalize trial.send packet reply = outcome at ends
  obtain ⟨answer, after⟩ := outcome
  cases ends <;> rfl

theorem callsUnder_nextId {call : TrialStep} (numbered : call.packet?.isSome) :
    trial.CallsUnder call (Client.nextId trial.client.packetId) := by
  cases call with
  | publish | subscribe => exact ⟨_, rfl, rfl⟩
  | deliver | sendMode | advance | connect | ping | pubAck | pubRel | disconnect | abort | fill
  | next | timeLeft | bump => cases numbered

theorem packetId_publish (topic : String) (payload : Bytes) (qos : QoS) :
    (trial.publish topic payload qos).2.client.packetId = Client.nextId trial.client.packetId :=
  packetId_send _ _ _

theorem packetId_bump (count : Nat) (last : TrialAnswer) :
    (trial.bump count last).2.client.packetId = Client.nextId^[count] trial.client.packetId := by
  induction count generalizing trial last with
  | zero => rfl
  | succ count ih => rw [bump, ih, packetId_publish, Function.iterate_succ_apply]

theorem countsUp_bump (count : Nat) :
    CountsUp 65535 trial.client.packetId.toNat
      (trial.bump count .done).2.client.packetId.toNat
      ((trial.taken (.bump count)).map UInt16.toNat) := by
  induction count with
  | zero => exact .nil
  | succ count ih =>
    have last : (trial.bump (count + 1) .done).2.client.packetId =
        Client.nextId (trial.bump count .done).2.client.packetId := by
      rw [packetId_bump, packetId_bump, Function.iterate_succ_apply']
    rw [taken, List.range_succ, List.map_append, List.map_append]
    refine ih.append (.single ?_)
    rw [last, Client.toNat_nextId]

/-- Every operation counts on by the identifiers that it takes. -/
theorem countsUp_perform (step : TrialStep) :
    CountsUp 65535 trial.client.packetId.toNat
      (trial.perform step).2.client.packetId.toNat ((trial.taken step).map UInt16.toNat) := by
  have kept {after : Trial} (same : after.client.packetId = trial.client.packetId) :
      CountsUp 65535 trial.client.packetId.toNat after.client.packetId.toNat [] := same ▸ .nil
  cases step with
  | publish | subscribe =>
    refine .single ?_
    rw [← Client.toNat_nextId]
    exact congrArg UInt16.toNat (packetId_send _ _ _)
  | bump count => exact trial.countsUp_bump count
  | connect | ping | pubAck | pubRel | disconnect => exact kept (trial.packetId_send _ _)
  | deliver | sendMode | advance | abort | timeLeft => exact .nil
  | fill =>
    refine kept ?_
    rw [perform, client_fill]
    rfl
  | next =>
    obtain ⟨length, -, client⟩ := trial.client.exists_client_next
    refine kept ?_
    rw [client_next, client]
    rfl

/-- A whole trial counts on by the identifiers that are taken in it. -/
theorem countsUp_identifiers (steps : List TrialStep) :
    CountsUp 65535 trial.client.packetId.toNat
      (Transcript.ofSteps trial steps).trial.client.packetId.toNat
      ((trial.identifiers steps).map UInt16.toNat) := by
  induction steps generalizing trial with
  | nil => exact .nil
  | cons step steps ih =>
    rw [identifiers, List.map_append, Transcript.trial_ofSteps_cons]
    exact (trial.countsUp_perform step).append (ih _)

theorem identifiers_concat (steps : List TrialStep) (step : TrialStep) :
    trial.identifiers (steps ++ [step]) =
      trial.identifiers steps ++ (Transcript.ofSteps trial steps).trial.taken step := by
  induction steps generalizing trial with
  | nil => exact List.append_nil _
  | cons first steps ih =>
    rw [List.cons_append, identifiers, ih, identifiers, Transcript.trial_ofSteps_cons,
      List.append_assoc]

theorem taken_of_call {call : TrialStep} (numbered : call.packet?.isSome) :
    trial.taken call = [Client.nextId trial.client.packetId] := by
  cases call with
  | publish | subscribe => exact congrArg ([·]) (packetId_send _ _ _)
  | deliver | sendMode | advance | connect | ping | pubAck | pubRel | disconnect | abort | fill
  | next | timeLeft | bump => cases numbered

theorem length_taken (step : TrialStep) : (trial.taken step).length = step.calls := by
  cases step with
  | bump count => rw [taken, List.length_map, List.length_range, TrialStep.calls]
  | publish | subscribe | deliver | sendMode | advance | connect | ping | pubAck | pubRel
  | disconnect | abort | fill | next | timeLeft => rfl

theorem length_identifiers (steps : List TrialStep) :
    (trial.identifiers steps).length = (steps.map TrialStep.calls).sum := by
  induction steps generalizing trial with
  | nil => rfl
  | cons step steps ih =>
    rw [identifiers, List.length_append, length_taken, ih, List.map_cons, List.sum_cons]

/-- The identifiers of a trial are taken by its calls, one by each, and numbered in a cycle. -/
structure Numbered (start : Trial) : Prop where
  /-- A call takes the identifier that the number of those before it gives. -/
  calls : ∀ steps call, call.packet?.isSome → ∃ packetId,
    (Transcript.ofSteps start steps).trial.CallsUnder call packetId ∧
      packetId.toNat = (steps.map TrialStep.calls).sum % 65535 + 1 ∧
      start.identifiers (steps ++ [call]) = start.identifiers steps ++ [packetId]
  /-- Nothing but these calls takes an identifier. -/
  count : ∀ steps, (start.identifiers steps).length = (steps.map TrialStep.calls).sum
  cycle : ∀ steps, Cycles UInt16.toNat 65535 (start.identifiers steps)

theorem numbered_of_unused {start : Trial} (unused : start.client.packetId = 0) :
    start.Numbered where
  calls steps call numbered := by
    have counted := start.countsUp_identifiers steps
    refine ⟨_, callsUnder_nextId _ numbered, ?_, ?_⟩
    · rw [Client.toNat_nextId, counted.now_mod, unused, List.length_map, length_identifiers]
      exact congrArg (· % 65535 + 1) (Nat.zero_add _)
    · rw [identifiers_concat, taken_of_call _ numbered]
  count := start.length_identifiers
  cycle steps := by
    have counted := start.countsUp_identifiers steps
    rw [unused] at counted
    exact cycles_of_countsUp counted

end Trial

/-- Packet identifiers go round from one to `2 ^ 16 - 1`, whatever else a client does and
however its calls end, and tags go round from one to `2 ^ 32 - 1`. -/
theorem numbers_cycle :
    (∀ (options : SessionOptions) (capacity : Nat) (created now : Micros) (link : Link)
        (seen : List LinkEvent),
      ({ client := .start options capacity created, link, now, seen } : Trial).Numbered) ∧
    ∀ count, let given := (({} : TagSequence).take count).1
      given.length = count ∧ Cycles (·.value.toNat) 4294967295 given ∧
        given.IsChain fun tag later => later = tag.next :=
  ⟨fun _ _ _ _ _ _ => Trial.numbered_of_unused rfl, fun count =>
    ⟨TagSequence.length_take {} count, cycles_of_countsUp (TagSequence.countsUp_take {} count),
      TagSequence.isChain_take {} count⟩⟩

end Uplink
