import Uplink.Proofs.Backend.Evolution

/-!
# What the task does

A step of the task leaves in the trace what the task did, and between that the calls and
notes of the handlers that it told. `World.Does` tells the two apart: it lists the deeds
in order, and says that every call between them found the slot taken. The deeds of what a
step is put together from, the telling of an event, the end of an attempt and its
beginning, are found here.
-/

namespace Uplink

/-- The event that delivers the message of a packet. A large payload is not delivered. -/
def Inbound.delivery? : Inbound → Option Event
  | publish message =>
    if message.payload.length ≤ Limits.payload then
      some (.dataReceived message.topic message.payload)
    else none
  | connAck _ | acknowledge _ _ | subAck _ | pingResp => none

/-- The acknowledgement that the broker is owed for a packet: for a message that was
delivered and asks for one, and for one that the broker holds until it is released. -/
def Inbound.answer? : Inbound → Option Outbound
  | publish message =>
    if message.payload.length ≤ Limits.payload ∧ message.qos = .atLeastOnce then
      message.packetId.map (.acknowledge .pubAck)
    else none
  | acknowledge .pubRec packetId => some (.acknowledge .pubRel packetId)
  | connAck _ | acknowledge _ _ | subAck _ | pingResp => none

/-- What is owed for a packet is one of two acknowledgements. -/
theorem Inbound.exists_of_answer? {packet : Inbound} {answer : Outbound}
    (owed : packet.answer? = some answer) :
    ∃ packetId, answer = .acknowledge .pubAck packetId ∨ answer = .acknowledge .pubRel packetId := by
  cases packet with
  | publish message =>
    simp only [answer?] at owed
    split at owed
    · obtain ⟨packetId, -, rfl⟩ := Option.map_eq_some_iff.mp owed
      exact ⟨packetId, .inl rfl⟩
    · cases owed
  | acknowledge kind packetId =>
    cases kind <;> cases owed
    exact ⟨packetId, .inr rfl⟩
  | connAck | subAck | pingResp => cases owed

/-- Only a turn changes when the task waits in it. -/
theorem Stage.waiting_of_rested {stage : Stage} (isOver : stage.isBusy = false) :
    stage.waiting = stage := by
  cases stage with
  | selecting => cases isOver
  | resting | awaitingRequest | opening | sending | draining => rfl

namespace Entry

variable {ν : Type} {β : Type}

/-- Whether the task did it itself. The mark of a single attempt does not count. -/
def isDeed : Entry ν → Bool
  | raised _ _ | opened _ | received _ | handled _ | handed _ _ _ | aborted => true
  | called _ _ | noted _ | returned => false

/-- A call was made on a handle with a taken slot. -/
def OnDuty : Entry ν → Prop
  | called call answer => ∃ handle : Handle, handle.active = true ∧ answer = (handle.perform call).1
  | _ => True

/-- The events that a packet gives rise to, in a phase in which it does not end the
session. -/
def tidings (phase : Phase) : Inbound → List (Entry ν)
  | .connAck _ =>
    if phase = .connecting then [.raised .connected .connected, .raised .ready .ready] else []
  | packet => packet.delivery?.toList.map fun event => .raised event phase

/-- An entry of a list that is put together stands in one of its parts. -/
theorem split_append {first second earlier later : List β} {entry : β}
    (split : first ++ second = earlier ++ entry :: later) :
    (∃ between, earlier = first ++ between ∧ second = between ++ entry :: later) ∨
      ∃ rest, first = earlier ++ entry :: rest ∧ later = rest ++ second := by
  obtain inSecond | ⟨rest, isFirst, isLater⟩ := List.append_eq_append_iff.mp split
  · exact .inl inSecond
  · cases rest with
    | nil => exact .inl ⟨[], by simpa using isFirst.symm, isLater.symm⟩
    | cons head rest =>
      obtain ⟨rfl, rfl⟩ := List.cons.inj isLater
      exact .inr ⟨rest, isFirst, rfl⟩

/-- What is told of a packet are events, and not those of the beginning and the end. -/
theorem exists_raised_of_mem_tidings {phase : Phase} {packet : Inbound} {entry : Entry ν}
    (isTold : entry ∈ tidings phase packet) : ∃ event phase,
      entry = .raised event phase ∧ event ≠ .connecting ∧ event ≠ .disconnected := by
  cases packet with
  | connAck answer =>
    simp only [tidings] at isTold
    split at isTold
    · rcases List.mem_cons.mp isTold with rfl | last
      · exact ⟨_, _, rfl, nofun, nofun⟩
      · exact ⟨_, _, List.mem_singleton.mp last, nofun, nofun⟩
    · cases isTold
  | publish message =>
    simp only [tidings, Inbound.delivery?] at isTold
    split at isTold
    · exact ⟨_, _, List.mem_singleton.mp isTold, nofun, nofun⟩
    · cases isTold
  | acknowledge | subAck | pingResp => cases isTold

/-- What looks at other things finds nothing in what is told of a packet. -/
theorem filterMap_tidings {view : Entry ν → Option β}
    (blind : ∀ event phase, event ≠ .connecting → event ≠ .disconnected →
      view (.raised event phase) = none) (phase : Phase) (packet : Inbound) :
    (tidings phase packet).filterMap view = [] := by
  refine List.filterMap_eq_nil_iff.mpr fun entry isTold => ?_
  obtain ⟨event, phase, rfl, begins, ends⟩ := exists_raised_of_mem_tidings isTold
  exact blind event phase begins ends

/-- What is no deed is left out of what is seen of the deeds. -/
theorem filterMap_deeds {view : Entry ν → Option β}
    (blind : ∀ entry, entry.isDeed = false → view entry = none) (entries : List (Entry ν)) :
    (entries.filter isDeed).filterMap view = entries.filterMap view := by
  induction entries with
  | nil => rfl
  | cons entry entries ih =>
    cases deed : entry.isDeed with
    | true => simp [deed, List.filterMap_cons, ih]
    | false => simp [deed, ih, blind entry deed]

end Entry

namespace Reaction

variable {ν α : Type}

/-- All calls of a reaction that begins with a taken slot find it taken. -/
theorem onDuty_run (reaction : Reaction ν α) {handle : Handle} (active : handle.active = true) :
    ∀ entry ∈ (reaction.run handle).2.2.map ReactionEntry.entry, entry.OnDuty := by
  induction reaction generalizing handle with
  | done result => exact List.forall_mem_nil _
  | note entry rest ih =>
    intro left isLeft
    rcases List.mem_cons.mp isLeft with rfl | later
    · trivial
    · exact ih active left later
  | call request next ih =>
    intro left isLeft
    rcases List.mem_cons.mp isLeft with rfl | later
    · exact ⟨handle, active, rfl⟩
    · exact ih _ (Handle.perform_active active request) left later
  | observe next ih => exact ih _ _ active

end Reaction

namespace World

variable {σ ν : Type} {before world after : World σ ν} {deeds more : List (Entry ν)}

/-- Between two worlds the task did this, in order, and calls found the slot taken. -/
def Does (before : World σ ν) (deeds : List (Entry ν)) (after : World σ ν) : Prop :=
  ∃ entries, before.Grows entries after ∧ entries.filter Entry.isDeed = deeds ∧
    ∀ entry ∈ entries, entry.OnDuty

theorem Does.of_trace (same : after.trace = before.trace) : before.Does [] after :=
  ⟨[], same, rfl, List.forall_mem_nil _⟩

theorem Does.append (first : before.Does deeds world) (second : world.Does more after) :
    before.Does (deeds ++ more) after := by
  obtain ⟨entries, grows, rfl, onDuty⟩ := first
  obtain ⟨later, growsLater, rfl, onDutyLater⟩ := second
  refine ⟨entries ++ later, grows.append growsLater, List.filter_append _ _, fun entry isEntry => ?_⟩
  rcases List.mem_append.mp isEntry with earlier | behind
  · exact onDuty entry earlier
  · exact onDutyLater entry behind

theorem Does.record {entry : Entry ν} (deed : entry.isDeed = true) (onDuty : entry.OnDuty) :
    world.Does [entry] (world.record entry) := by
  refine ⟨[entry], world.grows_record entry, ?_, ?_⟩
  · simp [deed]
  · simpa using onDuty

/-- Only the trace tells what was done. -/
theorem Does.to_trace {other : World σ ν} (does : before.Does deeds after)
    (same : other.trace = after.trace) : before.Does deeds other := by
  obtain ⟨entries, grows, rfl, onDuty⟩ := does
  exact ⟨entries, same.trans grows, rfl, onDuty⟩

theorem Does.since_eq (does : before.Does deeds after) :
    (after.since before).filter Entry.isDeed = deeds := by
  obtain ⟨entries, grows, rfl, -⟩ := does
  rw [grows.since_eq]

/-- A deed that is found in the trace is one of those that were done. -/
theorem Does.mem_deeds (does : before.Does deeds after) {entry : Entry ν}
    (recorded : entry ∈ after.since before) (deed : entry.isDeed = true) : entry ∈ deeds := by
  rw [← does.since_eq]
  exact List.mem_filter.mpr ⟨recorded, deed⟩

/-- The slot is taken once it is claimed. -/
theorem claimed_active (world : World σ ν) : world.claimed.handle.active = true := by
  cases active : world.handle.active <;> simp [claimed, Handle.claim?, active]

@[simp] theorem prepared_now (world : World σ ν) : world.prepared.now = world.now := by
  unfold prepared
  split <;> rfl

end World

namespace Setup

open Entry

variable {σ ν : Type} (setup : Setup σ ν)

theorem deeds_voice (event : Event) (world : World σ ν) :
    (setup.voice event world).filter isDeed = [.raised event world.handle.phase] := by
  rw [voice, List.filter_cons_of_pos rfl, remarks, List.cons.injEq]
  refine ⟨rfl, List.filter_eq_nil_iff.mpr fun entry isEntry => ?_⟩
  obtain ⟨left, -, rfl⟩ := List.mem_map.mp isEntry
  cases left <;> simp [ReactionEntry.entry, isDeed]

section

variable (phase : Phase) (event : Event) (world : World σ ν)

theorem does_raise (active : world.handle.active = true) :
    world.Does [.raised event world.handle.phase] (setup.raise event world) := by
  refine ⟨_, setup.grows_raise event world, setup.deeds_voice event world, fun entry isEntry => ?_⟩
  rcases List.mem_cons.mp isEntry with rfl | left
  · trivial
  · exact Reaction.onDuty_run _ active entry left

theorem does_enter (active : world.handle.active = true) :
    world.Does [.raised event phase] (setup.enter phase event world) :=
  setup.does_raise event (world.inPhase phase) active

theorem raise_active (active : world.handle.active = true) :
    (setup.raise event world).handle.active = true :=
  setup.raise_handle_induction event world (motive := fun handle => handle.active = true)
    (fun _ call taken => Handle.perform_active taken call) active

theorem enter_active (active : world.handle.active = true) :
    (setup.enter phase event world).handle.active = true :=
  setup.raise_active event (world.inPhase phase) active

/-- Giving the slot back is no deed. -/
theorem does_finish : world.Does [] (finish world) ∧ (finish world).stage.isBusy = false := by
  rcases finish_cases world with ⟨-, finished⟩ | ⟨-, finished⟩
  · rw [finished]
    exact ⟨.of_trace rfl, rfl⟩
  · rw [finished]
    exact ⟨⟨[.returned], rfl, rfl, by simp [OnDuty]⟩, rfl⟩

theorem does_giveUp (active : world.handle.active = true) :
    world.Does [.raised .disconnected .disconnected] (setup.giveUp world) ∧
      (setup.giveUp world).stage.isBusy = false := by
  obtain ⟨does, rests⟩ := does_finish (setup.enter .disconnected .disconnected world)
  exact ⟨(setup.does_enter _ _ world active).append does, rests⟩

theorem does_close (active : world.handle.active = true) :
    world.Does [.raised .disconnected .disconnected, .aborted] (setup.close world) ∧
      (setup.close world).stage.isBusy = false := by
  let told : World σ ν := setup.enter .disconnected .disconnected world
  have tells : world.Does [.raised .disconnected .disconnected] told :=
    setup.does_enter _ _ world active
  have aborts : told.Does [.aborted] (told.record .aborted) := .record rfl trivial
  obtain ⟨does, rests⟩ := does_finish { told.record .aborted with link := told.link.forget }
  exact ⟨((tells.append aborts).append (.of_trace rfl)).append does, rests⟩

end

theorem greet_active (world : World σ ν) : (setup.greet world).handle.active = true :=
  setup.enter_active _ _ world.claimed world.claimed_active

/-- All that the task does before it tries the broker is to tell that the attempt begins. -/
theorem does_greet (before : World σ ν) :
    before.Does [.raised .connecting .connecting] (setup.greet before.prepared) :=
  (World.Does.of_trace before.prepared_trace).append
    (setup.does_enter _ _ before.prepared.claimed before.prepared.claimed_active)

theorem does_dial (world : World σ ν) :
    world.Does [.opened setup.config.broker] (setup.dial world) := by
  have tries : world.Does [.opened setup.config.broker]
      (world.record (.opened setup.config.broker)) := .record rfl trivial
  exact tries.to_trace rfl

end Setup

end Uplink
