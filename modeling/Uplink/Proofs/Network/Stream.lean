import Uplink.Network.Connection

/-!
# What a simulated connection carries

Whatever the two ends do, the device reads what the peer has put on the stream, in order and
without gaps: `Connection.received_in_order`. A reset only cuts off the end. When the two ends
do not agree on TLS, all that the device reads are alerts, and the peer's application reads
nothing; otherwise it reads what was sent successfully: `Connection.delivered`.
-/

namespace Uplink

/-- The bytes that a step gives to the device. -/
def StepResult.bytes : StepResult → Bytes
  | received data => data
  | done | pending | failed _ => []

namespace ConnectionStep

/-- What the device sends in a step. -/
def sent : ConnectionStep → Bytes
  | send data => data
  | receive _ | abort | peerSend _ | peerClose | peerAbort => []

/-- What a step can make the peer put on the stream: its data when the two ends agree on TLS,
and alerts when they do not. -/
def utterances (agreed : Bool) : ConnectionStep → List Bytes
  | peerSend data => if agreed then [data] else []
  | send _ => if agreed then [] else [Connection.refusal]
  | peerClose => if agreed then [] else [Connection.farewell]
  | receive _ | abort | peerAbort => []

end ConnectionStep

namespace Connection

variable {connection : Connection} {data : Bytes}

/-! ## What can be read -/

/-- What the device can still read: what is left of the record that it has begun, when the
stream is secured, and what lies behind. -/
def readable (connection : Connection) : Bytes :=
  (if connection.secure then connection.record else []) ++ connection.unread.flatten

/-- Cutting bytes into pieces loses nothing. -/
theorem flatten_pieces (size fuel : Nat) (data : Bytes) : (pieces size fuel data).flatten = data := by
  induction fuel generalizing data with
  | zero => cases data <;> simp [pieces]
  | succ fuel ih =>
    cases data with
    | nil => rfl
    | cons byte rest =>
      rw [pieces, List.flatten_cons, ih, List.take_append_drop]
      exact List.cons_ne_nil byte rest

@[simp] theorem readable_push (connection : Connection) (data : Bytes) :
    (connection.push data).readable = connection.readable ++ data := by
  unfold readable push
  cases connection.secure <;> simp [flatten_pieces]

/-- What has arrived is the front of what was sent. -/
theorem flatten_arrived_isPrefix (overhead room : Nat) (pieces : List Bytes) :
    (arrived overhead room pieces).flatten <+: pieces.flatten := by
  induction pieces generalizing room with
  | nil => exact List.nil_prefix
  | cons piece rest ih =>
    rw [arrived]
    split
    · rw [List.flatten_cons, List.flatten_cons]
      exact (List.prefix_append_right_inj _).mpr (ih _)
    · exact List.nil_prefix

theorem readable_reset_isPrefix (connection : Connection) :
    connection.reset.readable <+: connection.readable :=
  (List.prefix_append_right_inj _).mpr (flatten_arrived_isPrefix _ _ _)

/-! ## What a change carries -/

/-- What the peer has yet to say: its greeting, as soon as it learns of the connection, unless
it hangs up or speaks TLS. -/
def welcome (connection : Connection) : List Bytes :=
  let peer := connection.network.peer
  if connection.settled || peer.hangsUp || peer.secure then [] else [peer.greeting]

/-- A change of a connection in which the device reads some bytes and the peer says something,
out of what it can say. Nothing is lost as long as the peer may still send, and only the end
is lost when it may no longer. -/
structure Carries (before : Connection) (read : Bytes) (spoken said : List Bytes)
    (after : Connection) : Prop where
  secure : after.secure = before.secure
  network : after.network = before.network
  closing : after.peerOpen = true → before.peerOpen = true
  silent : before.peerOpen = false → spoken = []
  lossless : after.peerOpen = true → read ++ after.readable = before.readable ++ spoken.flatten
  in_order : read ++ after.readable <+: before.readable ++ spoken.flatten
  heard : (spoken ++ after.welcome).Sublist (before.welcome ++ said)

section

variable {before world after : Connection} {read more : Bytes}
  {spoken said further saying : List Bytes}

theorem Carries.trans (first : Carries before read spoken said world)
    (second : Carries world more further saying after) :
    Carries before (read ++ more) (spoken ++ further) (said ++ saying) after where
  secure := second.secure.trans first.secure
  network := second.network.trans first.network
  closing still := first.closing (second.closing still)
  silent closed := by
    have stillClosed : world.peerOpen = false :=
      Bool.eq_false_iff.mpr fun still => absurd (first.closing still) (by simp [closed])
    rw [first.silent closed, second.silent stillClosed]
    rfl
  lossless still := by
    rw [List.append_assoc, second.lossless still, ← List.append_assoc,
      first.lossless (second.closing still), List.append_assoc, List.flatten_append]
  in_order := by
    have behind := (List.prefix_append_right_inj read).mpr second.in_order
    rw [List.append_assoc, List.flatten_append, ← List.append_assoc before.readable]
    -- Something may be lost before, but then nothing is said any more.
    cases still : world.peerOpen with
    | true => rwa [← List.append_assoc read world.readable, first.lossless still] at behind
    | false =>
      rw [second.silent still, List.flatten_nil, List.append_nil] at behind ⊢
      exact behind.trans first.in_order
  heard := by
    have later := second.heard.append_left spoken
    have earlier := first.heard.append_right saying
    simp only [List.append_assoc] at later earlier ⊢
    exact later.trans earlier

/-- A change that takes from what can be read at most. -/
theorem Carries.of_read (secure : after.secure = before.secure)
    (network : after.network = before.network)
    (settled : before.settled = true → after.settled = true)
    (closing : after.peerOpen = true → before.peerOpen = true)
    (taken : read ++ after.readable = before.readable) : Carries before read [] [] after where
  secure := secure
  network := network
  closing := closing
  silent _ := rfl
  lossless _ := by simp [taken]
  in_order := by simp [taken]
  heard := by
    rw [List.nil_append, List.append_nil, welcome, welcome, network]
    cases earlier : before.settled with
    | true => simp [settled earlier]
    | false => cases after.settled <;> simp

theorem Carries.refl (connection : Connection) : Carries connection [] [] [] connection :=
  .of_read rfl rfl id id rfl

/-- What is not said is not heard of. -/
theorem Carries.unsaid (carries : Carries before read spoken said after) (saying : List Bytes) :
    Carries before read spoken (said ++ saying) after :=
  { carries with
    heard := by
      rw [← List.append_assoc]
      exact carries.heard.trans (List.sublist_append_left _ _) }

end

variable {connection : Connection}

theorem carries_push (settled : connection.settled = true) (still : connection.peerOpen = true)
    (data : Bytes) : Carries connection [] [data] [data] (connection.push data) where
  secure := rfl
  network := rfl
  closing _ := still
  silent closed := absurd still (by simp [closed])
  lossless _ := by simp
  in_order := by simp
  heard := by
    have nothing : (connection.push data).welcome = [] := by simp [welcome, push, settled]
    simp [nothing]

/-- As soon as the network moves, the peer knows of the connection. -/
theorem settled_settle (connection : Connection) : connection.settle.settled = true := by
  unfold settle
  split
  · assumption
  · dsimp only
    split
    · split
      · rfl
      · split <;> rfl
    · rfl

/-- What is said then is the greeting. -/
theorem carries_greeting (unsettled : connection.settled = false)
    (stays : connection.network.peer.hangsUp = false)
    (plain : connection.network.peer.secure = false) (still : connection.peerOpen = true) :
    Carries connection [] [connection.network.peer.greeting] []
      ({ connection with settled := true }.push connection.network.peer.greeting) := by
  have said : ({ connection with settled := true }.push
      connection.network.peer.greeting).readable =
        connection.readable ++ connection.network.peer.greeting := readable_push _ _
  constructor
  case secure => rfl
  case network => rfl
  case closing => exact fun _ => still
  case silent => exact fun closed => absurd still (by simp [closed])
  case lossless => exact fun _ => by simp [said]
  case in_order => simp [said]
  case heard => simp [welcome, push, unsettled, stays, plain]

theorem carries_settle (connection : Connection) :
    ∃ spoken, Carries connection [] spoken [] connection.settle := by
  unfold settle
  split
  · exact ⟨[], .refl connection⟩
  · next unsettled =>
    dsimp only
    split
    · next able =>
      rw [Bool.and_eq_true] at able
      split
      · exact ⟨[], .of_read rfl rfl (fun _ => rfl) nofun rfl⟩
      · next stays =>
        split
        · exact ⟨[], .of_read rfl rfl (fun _ => rfl) id rfl⟩
        · next plain =>
          exact ⟨_, carries_greeting (Bool.eq_false_iff.mpr unsettled)
            (Bool.eq_false_iff.mpr stays) (Bool.eq_false_iff.mpr plain) able.2⟩
    · exact ⟨[], .of_read rfl rfl (fun _ => rfl) id rfl⟩

theorem carries_reset (connection : Connection) :
    Carries connection [] [] [] connection.reset where
  secure := rfl
  network := rfl
  closing still := absurd still (by simp [reset])
  silent _ := rfl
  lossless still := absurd still (by simp [reset])
  in_order := by simpa using readable_reset_isPrefix connection
  heard := by
    have same : connection.reset.welcome = connection.welcome := rfl
    simp [same]

/-! ## Steps -/

theorem carries_receiveEnd (connection : Connection) :
    Carries connection connection.receiveEnd.1.bytes [] [] connection.receiveEnd.2 := by
  unfold receiveEnd
  split
  · split
    · exact .of_read rfl rfl id id rfl
    · exact .refl connection
  · split
    · exact .refl connection
    · split
      · exact carries_reset connection
      · exact .refl connection

theorem carries_receivePlain (plain : connection.secure = false) (max : Nat) :
    Carries connection (connection.receivePlain max).1.bytes [] []
      (connection.receivePlain max).2 := by
  unfold receivePlain
  cases unread : connection.unread with
  | nil => exact carries_receiveEnd connection
  | cons piece rest =>
    refine .of_read rfl rfl id id ?_
    rw [readable_push]
    simp only [StepResult.bytes, readable, plain, unread, List.flatten_cons, Bool.false_eq_true,
      if_false, List.nil_append, List.append_nil]
    rw [← List.append_assoc, List.take_append_drop]

theorem carries_receiveSecure (secured : connection.secure = true) (max : Nat) :
    Carries connection (connection.receiveSecure max).1.bytes [] []
      (connection.receiveSecure max).2 := by
  unfold receiveSecure
  split
  · exact .refl connection
  · split
    · exact .refl connection
    · split
      · next byte left record =>
        refine .of_read rfl rfl id id ?_
        simp only [StepResult.bytes, readable, secured, record, if_true]
        rw [← List.append_assoc, List.take_append_drop]
      · next piece rest record unread =>
        refine .of_read rfl rfl id id ?_
        simp only [StepResult.bytes, readable, secured, record, unread, if_true,
          List.flatten_cons, List.nil_append]
        rw [← List.append_assoc, List.take_append_drop]
      · exact carries_receiveEnd connection

/-- The device reads what it can read; before it does so on a plain stream, the peer learns of
the connection. -/
theorem carries_receive (connection : Connection) (max : Nat) :
    ∃ spoken, Carries connection (connection.receive max).1.bytes spoken []
      (connection.receive max).2 := by
  unfold receive
  split
  · next secured => exact ⟨[], carries_receiveSecure secured max⟩
  · next plain =>
    split
    · exact ⟨[], .refl connection⟩
    · obtain ⟨spoken, settles⟩ := carries_settle connection
      have stillPlain : connection.settle.secure = false :=
        settles.secure.trans (Bool.eq_false_iff.mpr plain)
      exact ⟨_, settles.trans (carries_receivePlain stillPlain max)⟩

/-- A peer that expects records answers with an alert at most. -/
theorem carries_offer (settled : connection.settled = true) (data : Bytes) :
    ∃ spoken, Carries connection [] spoken [refusal] (connection.offer data) := by
  unfold offer
  split
  · split
    · exact ⟨[], (Carries.refl connection).unsaid [refusal]⟩
    · next able =>
      simp only [Bool.or_eq_true, Bool.not_eq_true', not_or] at able
      have still : connection.peerOpen = true := Bool.not_eq_false _ ▸ able.1.2
      let refused : Connection := { connection with refused := true }
      have refuses : Carries connection [] [] [] refused := .of_read rfl rfl id id rfl
      have knows : refused.settled = true := settled
      exact ⟨_, refuses.trans (carries_push knows still refusal)⟩
  · exact ⟨[], (Carries.refl connection).unsaid [refusal]⟩

theorem carries_send (connection : Connection) (data : Bytes) :
    ∃ spoken, Carries connection (connection.send data).1.bytes spoken
      ((ConnectionStep.send data).utterances connection.isAgreed) (connection.send data).2.2 := by
  have nothing (saying : List Bytes) : Carries connection [] [] saying connection :=
    (Carries.refl connection).unsaid saying
  unfold send
  split
  · exact ⟨[], nothing _⟩
  · split
    · exact ⟨[], nothing _⟩
    · split
      · exact ⟨[], nothing _⟩
      · split
        · exact ⟨[], nothing _⟩
        · next disagreed =>
          obtain ⟨greeting, settles⟩ := carries_settle connection
          obtain ⟨alert, answers⟩ := carries_offer (settled_settle connection) data
          rw [ConnectionStep.utterances, if_neg disagreed]
          exact ⟨_, settles.trans answers⟩

theorem carries_peerSend (connection : Connection) (data : Bytes) :
    ∃ spoken, Carries connection [] spoken
      ((ConnectionStep.peerSend data).utterances connection.isAgreed)
      (connection.peerSend data) := by
  unfold peerSend
  split
  · next able =>
    simp only [Bool.and_eq_true] at able
    obtain ⟨⟨⟨settled, still⟩, -⟩, agreed⟩ := able
    rw [ConnectionStep.utterances, if_pos agreed]
    exact ⟨_, carries_push settled still data⟩
  · exact ⟨[], (Carries.refl connection).unsaid _⟩

theorem carries_peerClose (connection : Connection) :
    ∃ spoken, Carries connection [] spoken
      (ConnectionStep.peerClose.utterances connection.isAgreed) connection.peerClose := by
  have closes (connection : Connection) (finished : Bool) : Carries connection [] [] []
      { connection with peerOpen := false, finished } := .of_read rfl rfl id nofun rfl
  unfold peerClose
  split
  · next able =>
    rw [Bool.and_eq_true] at able
    dsimp only
    split
    · exact ⟨[], (closes connection true).unsaid _⟩
    · next disagreed =>
      simp only [Bool.or_eq_true, not_or] at disagreed
      rw [ConnectionStep.utterances, if_neg disagreed.1]
      exact ⟨_, (carries_push able.1 able.2 farewell).trans (closes _ true)⟩
  · exact ⟨[], (closes connection connection.finished).unsaid _⟩

/-- What a step carries. -/
theorem carries_act (connection : Connection) (step : ConnectionStep) :
    ∃ spoken, Carries connection (connection.act step).1.bytes spoken
      (step.utterances connection.isAgreed) (connection.act step).2.2 := by
  cases step with
  | send data => exact carries_send connection data
  | receive max => exact carries_receive connection max
  | abort =>
    refine ⟨[], ?_⟩
    rw [act]
    split
    · exact .refl connection
    · exact carries_reset connection
  | peerSend data => exact carries_peerSend connection data
  | peerClose => exact carries_peerClose connection
  | peerAbort => exact ⟨[], carries_reset connection⟩

/-- A step and the network's move behind it. -/
theorem carries_perform (connection : Connection) (step : ConnectionStep) :
    ∃ spoken, Carries connection (connection.perform step).1.bytes spoken
      (step.utterances connection.isAgreed) (connection.perform step).2.2 := by
  obtain ⟨spoken, acts⟩ := carries_act connection step
  obtain ⟨greeting, settles⟩ := carries_settle (connection.act step).2.2
  have both := acts.trans settles
  rw [List.append_nil, List.append_nil] at both
  exact ⟨_, both⟩

/-! ## Runs -/

/-- The connection after some steps. -/
def afterAll (connection : Connection) (steps : List ConnectionStep) : Connection :=
  steps.foldl (fun connection step => (connection.perform step).2.2) connection

/-- What the device reads in some steps. -/
def reads (connection : Connection) (steps : List ConnectionStep) : Bytes :=
  (connection.performAll steps).flatMap fun entry => entry.1.bytes

theorem Carries.isAgreed {before after : Connection} {read : Bytes} {spoken said : List Bytes}
    (carries : Carries before read spoken said after) : after.isAgreed = before.isAgreed := by
  rw [Connection.isAgreed, Connection.isAgreed, carries.secure, carries.network]

theorem carries_performAll (connection : Connection) (steps : List ConnectionStep) :
    ∃ spoken, Carries connection (connection.reads steps) spoken
      (steps.flatMap (ConnectionStep.utterances connection.isAgreed))
      (connection.afterAll steps) := by
  induction steps generalizing connection with
  | nil => exact ⟨[], .refl connection⟩
  | cons step steps ih =>
    obtain ⟨spoken, performs⟩ := carries_perform connection step
    obtain ⟨further, later⟩ := ih (connection.perform step).2.2
    rw [performs.isAgreed] at later
    exact ⟨_, performs.trans later⟩

/-- On a new connection the device reads, in order and without gaps, a front of what the peer
says: its greeting, and then what it sends when the two ends agree on TLS, or alerts when they
do not. As long as the peer may still send, what the device has not read it can still read. -/
theorem received_in_order (network : Network) (secure : Bool) (steps : List ConnectionStep) :
    ∃ spoken : List Bytes,
      spoken.Sublist ((start network secure).welcome ++
        steps.flatMap (ConnectionStep.utterances (secure == network.peer.secure))) ∧
      (start network secure).reads steps <+: spoken.flatten ∧
      (((start network secure).afterAll steps).peerOpen = true →
        (start network secure).reads steps ++ ((start network secure).afterAll steps).readable =
          spoken.flatten) := by
  obtain ⟨spoken, carries⟩ := carries_performAll (start network secure) steps
  have nothing : (start network secure).readable = [] := by cases secure <;> rfl
  refine ⟨spoken, ?_, ?_, fun still => ?_⟩
  · exact (List.sublist_append_left _ _).trans carries.heard
  · have inOrder := carries.in_order
    rw [nothing] at inOrder
    exact (List.prefix_append _ _).trans inOrder
  · have lossless := carries.lossless still
    rwa [nothing] at lossless

/-- The peer's application gets what was sent successfully, when the two ends agree on TLS. -/
theorem toPeer_perform (connection : Connection) (step : ConnectionStep) :
    (connection.perform step).2.1 =
      if connection.isAgreed && (connection.perform step).1 = .done then step.sent else [] := by
  have others {taken : Bool} : [] = if taken then ([] : Bytes) else [] := by cases taken <;> rfl
  cases step with
  | send data =>
    show (connection.send data).2.1 = if connection.isAgreed && (connection.send data).1 = .done
      then data else []
    unfold send
    split
    · next empty => simp [List.isEmpty_iff.mp empty]
    · split
      · simp
      · split
        · simp
        · split
          · next agreed => simp [agreed]
          · next disagreed => simp [disagreed]
  | receive | abort | peerSend | peerClose | peerAbort => exact others

/-- From a new connection the peer's application gets exactly the data of the sends that
succeed, step by step, or nothing at all when the two ends do not agree on TLS. -/
theorem delivered (network : Network) (secure : Bool) (steps : List ConnectionStep) :
    ((start network secure).performAll steps).map Prod.snd =
      List.zipWith (fun step entry =>
          if (secure == network.peer.secure) && entry.1 = .done then step.sent else [])
        steps ((start network secure).performAll steps) := by
  have both : ∀ connection : Connection, (connection.performAll steps).map Prod.snd =
      List.zipWith (fun step entry =>
          if connection.isAgreed && entry.1 = .done then step.sent else [])
        steps (connection.performAll steps) := by
    induction steps with
    | nil => exact fun _ => rfl
    | cons step steps ih =>
      intro connection
      obtain ⟨spoken, carries⟩ := carries_perform connection step
      have later := ih (connection.perform step).2.2
      rw [carries.isAgreed] at later
      rw [performAll, List.map_cons, later, List.zipWith_cons_cons, ← toPeer_perform]
  exact both (start network secure)

end Connection

end Uplink
