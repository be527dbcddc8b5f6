import Uplink.Proofs.Backend.Requests
import Uplink.Proofs.Packet.Layout
import Uplink.Proofs.Session.Room
import Mathlib.Logic.Function.Iterate

/-!
# The silence of a client

A client measures its silence from the last packet that its link took, or from its
beginning, and from nothing else: an operation that fails, whether its packet cannot be
encoded or the link does not take it, leaves all but the packet identifier as it was. The
silence that is allowed is the one that the connection request announces, in whole seconds.

An operation of a trial stands at the moment at which it ends. One that takes a while stands
behind the time that passed meanwhile: what it encodes does not depend on the clock.
-/

namespace Uplink

/-! ## Operations that send -/

/-- What an operation sends: the client with the identifiers that are given out, the packet,
and the answer once it is sent. A number of publishes is told from the last of them. -/
def TrialStep.request? (client : Client) : TrialStep → Option (Client × Outbound × TrialAnswer)
  | .connect => some (client, client.options.connect, .done)
  | .publish topic payload qos =>
    some (client.takeId.2, .publish { topic, payload, qos, packetId := client.takeId.1 },
      .packetId client.takeId.1)
  | .subscribe topic qos =>
    some (client.takeId.2, .subscribe ⟨client.takeId.1, [(topic, qos)]⟩,
      .packetId client.takeId.1)
  | .ping => some (client, .pingReq, .done)
  | .pubAck packetId => some (client, .acknowledge .pubAck packetId, .done)
  | .pubRel packetId => some (client, .acknowledge .pubRel packetId, .done)
  | .disconnect => some (client, .disconnect, .done)
  | .bump (count + 1) =>
    let earlier := { client with packetId := Client.nextId^[count] client.packetId }
    some (earlier.takeId.2,
      .publish { topic := "t", payload := [], qos := .atMostOnce, packetId := earlier.takeId.1 },
      .packetId earlier.takeId.1)
  | .bump 0 | .deliver _ | .sendMode _ | .advance _ | .abort | .fill | .next | .timeLeft => none

/-- An answer says that the operation was done. -/
def TrialAnswer.succeeded : TrialAnswer → Bool
  | done | packetId _ => true
  | pending | failed _ | packet _ | time _ => false

/-- Taking identifiers changes nothing else, and the answer of a packet that is sent is a
success. -/
theorem TrialStep.numbered_of_request? {step : TrialStep} {client numbered : Client}
    {packet : Outbound} {reply : TrialAnswer}
    (asks : step.request? client = some (numbered, packet, reply)) :
    numbered = { client with packetId := numbered.packetId } ∧ reply.succeeded = true := by
  cases step with
  | bump count =>
    cases count with
    | zero => cases asks
    | succ count =>
      cases asks
      exact ⟨rfl, rfl⟩
  | deliver | sendMode | advance | abort | fill | next | timeLeft => cases asks
  | connect | publish | subscribe | ping | pubAck | pubRel | disconnect =>
    cases asks
    exact ⟨rfl, rfl⟩

namespace Trial

/-- How sending a packet can end. -/
inductive SendCase (trial : Trial) (packet : Outbound) (reply : TrialAnswer) :
    TrialAnswer → Trial → Prop where
  | unencodable {fault : ProtocolError} (encodes : trial.client.encode packet = .error fault) :
      SendCase trial packet reply (.failed (.protocol fault)) trial
  /-- The link makes it wait, and it is abandoned. -/
  | abandoned {frame : Bytes} (encodes : trial.client.encode packet = .ok frame) :
      SendCase trial packet reply .pending trial
  | broken {frame : Bytes} {fault : LinkFault} (encodes : trial.client.encode packet = .ok frame) :
      SendCase trial packet reply (.failed (.transport fault))
        { trial with seen := .sendFailed frame :: trial.seen }
  | taken {frame : Bytes} (encodes : trial.client.encode packet = .ok frame) :
      SendCase trial packet reply reply
        { trial with client := trial.client.sentAt trial.now, seen := .sent frame :: trial.seen }

theorem send_cases (trial : Trial) (packet : Outbound) (reply : TrialAnswer) :
    trial.SendCase packet reply (trial.send packet reply).1 (trial.send packet reply).2 := by
  unfold send
  split
  · next encodes => exact .unencodable encodes
  · next encodes =>
    split
    · exact .abandoned encodes
    · exact .broken encodes
    · exact .taken encodes

/-- Many publishes of nothing come to what the last of them does: the link is the same for
all, and their frames do not show the identifier. -/
theorem bump_succ (trial : Trial) (count : Nat) (last : TrialAnswer) :
    let earlier : Trial := { trial with
      client := { trial.client with packetId := Client.nextId^[count] trial.client.packetId } }
    trial.bump (count + 1) last =
      ((earlier.publish "t" [] .atMostOnce).1,
        { (earlier.publish "t" [] .atMostOnce).2 with seen := trial.seen }) := by
  have unseen (packetId : UInt16) (capacity : Nat) := @Publish.encode_of_atMostOnce
    ⟨"t", [], .atMostOnce, none, false, false⟩ rfl (some packetId) capacity
  induction count generalizing trial last with
  | zero => rfl
  | succ count ih =>
    rw [bump]
    simp only
    rw [ih]
    simp only [publish, send, Client.takeId, Client.encode, unseen, Function.iterate_succ_apply]
    cases encodes : (Outbound.publish ⟨"t", [], .atMostOnce, none, false, false⟩).encode
        trial.client.capacity with
    | error fault => simp only [encodes]
    | ok frame =>
      cases ends : trial.link.send? with
      | none => simp only [encodes, ends]
      | some outcome => cases outcome <;> simp only [encodes, ends, Client.sentAt]

/-- An operation that sends a single packet does what sending it does. -/
theorem perform_eq_send {trial : Trial} {step : TrialStep} (recorded : ∀ count, step ≠ .bump count)
    {numbered : Client} {packet : Outbound} {reply : TrialAnswer}
    (asks : step.request? trial.client = some (numbered, packet, reply)) :
    trial.perform step = { trial with client := numbered }.send packet reply := by
  cases step with
  | bump count => exact absurd rfl (recorded count)
  | deliver | sendMode | advance | abort | fill | next | timeLeft => cases asks
  | connect | publish | subscribe | ping | pubAck | pubRel | disconnect =>
    cases asks
    rfl

/-- An operation that sends a packet does what sending it does, under the identifiers that it
took; the link may leave it out of its record. -/
theorem perform_of_request? {trial : Trial} {step : TrialStep} {numbered : Client}
    {packet : Outbound} {reply : TrialAnswer}
    (asks : step.request? trial.client = some (numbered, packet, reply)) :
    ∃ after, SendCase { trial with client := numbered } packet reply (trial.perform step).1 after ∧
      (trial.perform step).2 = { after with seen := (trial.perform step).2.seen } ∧
      ((trial.perform step).2.seen = after.seen ∨ (trial.perform step).2.seen = trial.seen) := by
  cases step with
  | bump count =>
    cases count with
    | zero => cases asks
    | succ count =>
      cases asks
      rw [perform, bump_succ]
      exact ⟨_, send_cases _ _ _, rfl, .inr rfl⟩
  | deliver | sendMode | advance | abort | fill | next | timeLeft => cases asks
  | connect | publish | subscribe | ping | pubAck | pubRel | disconnect =>
    cases asks
    exact ⟨_, send_cases _ _ _, rfl, .inl rfl⟩

/-- Whether an operation sends its packet. -/
def sends (trial : Trial) (step : TrialStep) : Bool :=
  (step.request? trial.client).isSome && (trial.perform step).1.succeeded

/-- The moments at which packets were sent in a trial. -/
def sendTimes (trial : Trial) : List TrialStep → List Micros
  | [] => []
  | step :: steps =>
    (if trial.sends step then [trial.now] else []) ++ (trial.perform step).2.sendTimes steps

variable {trial : Trial} {step : TrialStep}

/-- An operation that sends nothing keeps what the silence is measured by. -/
theorem pace_perform_of_quiet (quiet : step.request? trial.client = none) :
    (trial.perform step).2.client.options = trial.client.options ∧
      (trial.perform step).2.client.lastSend = trial.client.lastSend := by
  cases step with
  | connect | publish | subscribe | ping | pubAck | pubRel | disconnect => cases quiet
  | deliver | sendMode | advance | abort | timeLeft => exact ⟨rfl, rfl⟩
  | bump count =>
    cases count with
    | zero => exact ⟨rfl, rfl⟩
    | succ count => cases quiet
  | fill =>
    have client : (trial.perform .fill).2.client = _ := trial.client_fill
    rw [client]
    exact ⟨rfl, rfl⟩
  | next =>
    obtain ⟨length, -, client⟩ := trial.client.exists_client_next
    rw [client_next, client]
    exact ⟨rfl, rfl⟩

/-- The link sees no frame of an operation that sends nothing. -/
theorem seen_perform_of_quiet (quiet : step.request? trial.client = none) :
    (trial.perform step).2.seen = trial.seen ∨
      (trial.perform step).2.seen = .aborted :: trial.seen := by
  cases step with
  | connect | publish | subscribe | ping | pubAck | pubRel | disconnect => cases quiet
  | deliver | sendMode | advance | timeLeft | next => exact .inl rfl
  | abort => exact .inr rfl
  | bump count =>
    cases count with
    | zero => exact .inl rfl
    | succ count => cases quiet
  | fill =>
    rw [perform, fill]
    split
    · exact .inl rfl
    · split <;> exact .inl rfl

/-- Only a packet that is sent breaks the silence. -/
theorem lastSend_perform (trial : Trial) (step : TrialStep) :
    (trial.perform step).2.client.options = trial.client.options ∧
      (trial.perform step).2.client.lastSend =
        if trial.sends step then trial.now else trial.client.lastSend := by
  cases asks : step.request? trial.client with
  | none => simpa [sends, asks] using pace_perform_of_quiet asks
  | some request =>
    obtain ⟨numbered, packet, reply⟩ := request
    obtain ⟨sameElse, success⟩ := TrialStep.numbered_of_request? asks
    obtain ⟨after, ends, isAfter, -⟩ := perform_of_request? asks
    rw [isAfter]
    simp only [sends, asks, Option.isSome_some, Bool.true_and]
    generalize (trial.perform step).1 = answer at ends
    rw [sameElse] at ends
    cases ends with
    | unencodable | abandoned | broken => exact ⟨rfl, rfl⟩
    | taken =>
      rw [success]
      exact ⟨rfl, rfl⟩

theorem now_le_perform (trial : Trial) (step : TrialStep) :
    trial.now ≤ (trial.perform step).2.now := by
  cases asks : step.request? trial.client with
  | some request =>
    obtain ⟨after, ends, isAfter, -⟩ := perform_of_request? asks
    rw [isAfter]
    generalize (trial.perform step).1 = answer at ends
    cases ends <;> exact Nat.le_refl _
  | none =>
    cases step with
    | connect | publish | subscribe | ping | pubAck | pubRel | disconnect => cases asks
    | deliver | sendMode | abort | timeLeft | next => exact Nat.le_refl _
    | advance time => exact Nat.le_add_right _ _
    | bump count =>
      cases count with
      | zero => exact Nat.le_refl _
      | succ count => cases asks
    | fill =>
      rw [perform, fill]
      split
      · exact Nat.le_refl _
      · split <;> exact Nat.le_refl _

/-- A packet is sent when the link takes its frame. -/
theorem sends_iff (trial : Trial) {step : TrialStep} (recorded : ∀ count, step ≠ .bump count) :
    trial.sends step = true ↔
      ∃ frame, (trial.perform step).2.seen = .sent frame :: trial.seen := by
  cases asks : step.request? trial.client with
  | none =>
    rcases seen_perform_of_quiet asks with same | aborted
    · simp [sends, asks, same]
    · simp [sends, asks, aborted]
  | some request =>
    obtain ⟨numbered, packet, reply⟩ := request
    have success := (TrialStep.numbered_of_request? asks).2
    have ends := send_cases { trial with client := numbered } packet reply
    rw [← perform_eq_send recorded asks] at ends
    simp only [sends, asks, Option.isSome_some, Bool.true_and]
    generalize trial.perform step = outcome at ends
    obtain ⟨answer, after⟩ := outcome
    cases ends with
    | unencodable | abandoned | broken => simp [TrialAnswer.succeeded]
    | @taken frame => exact iff_of_true success ⟨frame, rfl⟩

/-! ## Operations that fail -/

/-- An operation that asks to send, and does not, changes no more than the identifier, and the
record of the link. -/
theorem perform_of_unsent (asks : (step.request? trial.client).isSome)
    (unsent : (trial.perform step).1.succeeded = false) :
    (trial.perform step).2 = { trial with
      client := { trial.client with packetId := (trial.perform step).2.client.packetId },
      seen := (trial.perform step).2.seen } := by
  obtain ⟨⟨numbered, packet, reply⟩, asks⟩ := Option.isSome_iff_exists.mp asks
  obtain ⟨sameElse, success⟩ := TrialStep.numbered_of_request? asks
  obtain ⟨after, ends, isAfter, -⟩ := perform_of_request? asks
  rw [sameElse] at ends
  generalize trial.perform step = outcome at unsent ends isAfter ⊢
  obtain ⟨answer, left⟩ := outcome
  simp only at unsent ends isAfter ⊢
  rw [isAfter]
  cases ends with
  | unencodable | abandoned | broken => rfl
  | taken => simp [success] at unsent

/-- What cannot be encoded does not reach the link. -/
theorem seen_of_unencodable {fault : ProtocolError} (asks : (step.request? trial.client).isSome)
    (unencodable : (trial.perform step).1 = .failed (.protocol fault)) :
    (trial.perform step).2.seen = trial.seen := by
  obtain ⟨⟨numbered, packet, reply⟩, asks⟩ := Option.isSome_iff_exists.mp asks
  have success := (TrialStep.numbered_of_request? asks).2
  obtain ⟨after, ends, -, recorded⟩ := perform_of_request? asks
  rw [unencodable] at ends
  cases ends with
  | unencodable => exact recorded.elim id id
  | taken => cases success

/-- What receiving and handing out depend on: the receive buffer and the link. -/
def inflow (trial : Trial) : (Nat × Bytes × Nat) × Link := (trial.client.store, trial.link)

theorem inflow_perform_of_request? (asks : (step.request? trial.client).isSome) :
    (trial.perform step).2.inflow = trial.inflow := by
  obtain ⟨⟨numbered, packet, reply⟩, asks⟩ := Option.isSome_iff_exists.mp asks
  obtain ⟨sameElse, -⟩ := TrialStep.numbered_of_request? asks
  obtain ⟨after, ends, isAfter, -⟩ := perform_of_request? asks
  rw [isAfter]
  rw [sameElse] at ends
  generalize (trial.perform step).1 = answer at ends
  cases ends <;> rfl

theorem link_fill (trial : Trial) :
    trial.fill.2.link = if trial.client.release.room = 0 then trial.link
      else ((trial.link.receive? trial.client.release.room).map Prod.snd).getD trial.link := by
  unfold fill
  split
  · next full => rw [if_pos full]
  · next free =>
    rw [if_neg free]
    split <;> simp [*]

theorem exists_of_alike {other : Trial} (alike : trial.inflow = other.inflow) :
    ∃ options lastSend packetId now seen, other = { trial with
      client := { trial.client with options, lastSend, packetId }, now, seen } := by
  obtain ⟨⟨_, _, _, _, _, _⟩, _, _, _⟩ := trial
  obtain ⟨⟨_, _, _, _, _, _⟩, _, _, _⟩ := other
  simp only [inflow, Client.store, Prod.mk.injEq] at alike
  obtain ⟨⟨rfl, rfl, rfl⟩, rfl⟩ := alike
  exact ⟨_, _, _, _, _, rfl⟩

/-- Trials with the same buffer and link receive and hand out the same, also later. -/
theorem perform_alike {other : Trial} (alike : trial.inflow = other.inflow) (step : TrialStep) :
    (trial.perform step).2.inflow = (other.perform step).2.inflow ∧
      trial.received step = other.received step ∧
      trial.handedOut? step = other.handedOut? step := by
  cases step with
  | connect | publish | subscribe | ping | pubAck | pubRel | disconnect =>
    rw [inflow_perform_of_request? rfl, inflow_perform_of_request? rfl]
    exact ⟨alike, rfl, rfl⟩
  | bump count =>
    cases count with
    | zero => exact ⟨alike, rfl, rfl⟩
    | succ count =>
      rw [inflow_perform_of_request? rfl, inflow_perform_of_request? rfl]
      exact ⟨alike, rfl, rfl⟩
  | advance | abort | timeLeft => exact ⟨alike, rfl, rfl⟩
  | deliver delivery =>
    exact ⟨congrArg (fun inflow => (inflow.1, inflow.2.deliver delivery)) alike, rfl, rfl⟩
  | sendMode mode =>
    exact ⟨congrArg (fun inflow => (inflow.1, { inflow.2 with sendMode := mode })) alike, rfl, rfl⟩
  | fill =>
    obtain ⟨options, lastSend, packetId, now, seen, rfl⟩ := exists_of_alike alike
    simp only [inflow, perform, client_fill, link_fill]
    exact ⟨rfl, rfl, rfl⟩
  | next =>
    obtain ⟨options, lastSend, packetId, now, seen, rfl⟩ := exists_of_alike alike
    simp only [inflow, perform, next, Client.next, Client.release, handedOut?]
    generalize Frame.length? _ _ = verdict
    rcases verdict with _ | (_ | _) <;> exact ⟨rfl, rfl, rfl⟩

end Trial

namespace Transcript

variable {trial other : Trial}

/-- Trials with the same buffer and link receive and hand out the same from then on. -/
theorem ofSteps_alike (alike : trial.inflow = other.inflow) (steps : List TrialStep) :
    (ofSteps trial steps).trial.inflow = (ofSteps other steps).trial.inflow ∧
      (ofSteps trial steps).received = (ofSteps other steps).received ∧
      (ofSteps trial steps).answers = (ofSteps other steps).answers := by
  induction steps using List.reverseRecOn with
  | nil => exact ⟨alike, rfl, rfl⟩
  | append_singleton steps step ih =>
    obtain ⟨alikeThen, received, answers⟩ := ih
    obtain ⟨alikeAfter, receives, handsOut⟩ := Trial.perform_alike alikeThen step
    rw [ofSteps_concat, ofSteps_concat]
    refine ⟨alikeAfter, ?_, ?_⟩
    · rw [perform, perform, received, receives]
    · rw [perform, perform, answers, handsOut]

theorem trial_ofSteps_cons (trial : Trial) (step : TrialStep) (steps : List TrialStep) :
    (ofSteps trial (step :: steps)).trial = (ofSteps (trial.perform step).2 steps).trial := by
  have follows (transcript : Transcript) :
      steps.foldl (fun trial step => (trial.perform step).2) transcript.trial =
        (steps.foldl perform transcript).trial := List.foldl_hom _ fun _ _ => rfl
  rw [ofSteps, ofSteps, List.foldl_cons, ← follows, ← follows]
  rfl

end Transcript

namespace Trial

open Transcript (ofSteps ofSteps_concat trial_ofSteps_cons)

variable {trial : Trial} {step : TrialStep}

/-! ## The silence of a client that was started -/

theorem sendTimes_concat (trial : Trial) (steps : List TrialStep) (step : TrialStep) :
    trial.sendTimes (steps ++ [step]) = trial.sendTimes steps ++
      if (ofSteps trial steps).trial.sends step then [(ofSteps trial steps).trial.now] else [] := by
  induction steps generalizing trial with
  | nil => exact List.append_nil _
  | cons first steps ih =>
    rw [List.cons_append, sendTimes, ih, sendTimes, trial_ofSteps_cons, List.append_assoc]

/-- A client keeps its options, and knows the last moment at which it sent. -/
theorem pace_ofSteps (begun : trial.client.lastSend ≤ trial.now) (steps : List TrialStep) :
    (ofSteps trial steps).trial.client.options = trial.client.options ∧
      (ofSteps trial steps).trial.client.lastSend =
        (trial.sendTimes steps).getLast?.getD trial.client.lastSend ∧
      (ofSteps trial steps).trial.client.lastSend ≤ (ofSteps trial steps).trial.now := by
  induction steps using List.reverseRecOn with
  | nil => exact ⟨rfl, rfl, begun⟩
  | append_singleton steps step ih =>
    obtain ⟨options, lastSend, past⟩ := ih
    rw [ofSteps_concat, sendTimes_concat, Transcript.perform]
    obtain ⟨keptOptions, sentNow⟩ := (ofSteps trial steps).trial.lastSend_perform step
    have later := (ofSteps trial steps).trial.now_le_perform step
    rw [keptOptions, sentNow]
    split
    · exact ⟨options, by rw [List.getLast?_concat, Option.getD_some], later⟩
    · exact ⟨options, by rw [List.append_nil, lastSend], past.trans later⟩

/-- A connection request that announces this many seconds. -/
def Announces (seconds : Nat) (frame : Bytes) : Prop :=
  ∃ (flags : UInt8) (clientId : String) (lengthField : Bytes),
    let content := Wire.text "MQTT" ++ [4, flags] ++ Wire.number seconds ++ Wire.text clientId
    Varint.Shortest lengthField content.length ∧ frame = 0x10 :: (lengthField ++ content)

theorem announces_of_encode {options : SessionOptions} {capacity : Nat} {frame : Bytes}
    (encodes : options.connect.encode capacity = .ok frame) :
    Announces options.keepAliveSeconds.toNat frame := by
  obtain ⟨encoded, written, rfl⟩ := Except.map_eq_ok_iff.mp encodes
  obtain ⟨lengthField, shortest, bytes, -⟩ := (Outbound.carries_of_encodeInto written).1
  exact ⟨_, _, lengthField, shortest, bytes⟩

/-- What an operation that asks to send leaves behind when it does not send. -/
structure Harmless (trial : Trial) (step : TrialStep) : Prop where
  /-- What cannot be encoded does not reach the link. -/
  unseen : ∀ fault, (trial.perform step).1 = .failed (.protocol fault) →
    (trial.perform step).2.seen = trial.seen
  /-- Only the identifier may have moved on, and the link may have recorded a failure. -/
  kept : (trial.perform step).1.succeeded = false →
    (trial.perform step).2 = { trial with
      client := { trial.client with packetId := (trial.perform step).2.client.packetId },
      seen := (trial.perform step).2.seen }
  /-- What is received and handed out later is what it would have been. -/
  unhindered : (trial.perform step).1.succeeded = false → ∀ later,
    (ofSteps (trial.perform step).2 later).received = (ofSteps trial later).received ∧
      (ofSteps (trial.perform step).2 later).answers = (ofSteps trial later).answers

theorem harmless_of_request? (asks : (step.request? trial.client).isSome) :
    trial.Harmless step where
  unseen _ unencodable := seen_of_unencodable asks unencodable
  kept unsent := perform_of_unsent asks unsent
  unhindered _ later := (Transcript.ofSteps_alike (inflow_perform_of_request? asks) later).2

/-- The silence of a client at a moment of its trial: how many seconds of it are announced,
and since when it lasts. -/
structure Measured (trial : Trial) (seconds : Nat) (last : Micros) : Prop where
  /-- Every connection request that the link sees announces these seconds. -/
  announced : ∀ frame, (trial.perform .connect).2.seen = .sent frame :: trial.seen ∨
    (trial.perform .connect).2.seen = .sendFailed frame :: trial.seen → Announces seconds frame
  past : last ≤ trial.now
  /-- What is left of these seconds, and never less than nothing. -/
  left : (trial.perform .timeLeft).1 =
    .time (if seconds = 0 then none else some (seconds * 1000000 - (trial.now - last)))
  /-- An operation sends when the link takes its frame. -/
  sent : ∀ step, (∀ count, step ≠ .bump count) → (trial.sends step = true ↔
    ∃ frame, (trial.perform step).2.seen = .sent frame :: trial.seen)
  /-- Operations that ask to send, and do not, leave the rest as it was. -/
  harmless : ∀ step, (step.request? trial.client).isSome → trial.Harmless step

theorem measured (trial : Trial) (past : trial.client.lastSend ≤ trial.now) :
    trial.Measured trial.client.options.keepAliveSeconds.toNat trial.client.lastSend where
  announced frame seen := by
    have ends := trial.send_cases trial.client.options.connect .done
    have isConnect : trial.perform .connect = trial.send trial.client.options.connect .done := rfl
    rw [← isConnect] at ends
    generalize trial.perform .connect = outcome at ends seen
    obtain ⟨answer, after⟩ := outcome
    cases ends with
    | unencodable | abandoned => simp at seen
    | broken encodes =>
      obtain rfl : _ = frame := by simpa using seen
      exact announces_of_encode encodes
    | taken encodes =>
      obtain rfl : _ = frame := by simpa using seen
      exact announces_of_encode encodes
  past := past
  left := by
    simp only [perform, Client.timeLeft, SessionOptions.keepAlive, microsPerSecond,
      Nat.mul_eq_zero]
    simp
  sent step recorded := trial.sends_iff recorded
  harmless _ asks := harmless_of_request? asks

/-- A client announces and measures its keep-alive in whole seconds, as many as the field for
them holds, and counts from its last successful send, or from its beginning, whatever
operations came before. -/
theorem silence_measured (options : SessionOptions) (keepAlive : Micros) (capacity : Nat)
    (created : Micros) (link : Link) (steps : List TrialStep) :
    let start : Trial :=
      { client := .start (options.withKeepAlive keepAlive) capacity created, link, now := created }
    (ofSteps start steps).trial.Measured (min (keepAlive / 1000000) 65535)
      ((start.sendTimes steps).getLast?.getD created) := by
  intro start
  obtain ⟨keptOptions, lastSend, past⟩ := start.pace_ofSteps (Nat.le_refl created) steps
  have seconds := options.toNat_keepAliveSeconds_withKeepAlive keepAlive
  have measured := (ofSteps start steps).trial.measured past
  rw [keptOptions, lastSend] at measured
  exact seconds ▸ measured

end Trial

end Uplink
