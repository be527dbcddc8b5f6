import Mathlib.Data.List.Basic
import Uplink.Proofs.Backend.Acts

/-!
# What becomes of the connection slot

A connect request that is accepted takes the slot, and the attempt that it brings about
gives it back when it is over. The lemmas here say what calls, handlers and steps of the
task do to the slot, by the marks that they leave in the trace, and that every attempt
gives the slot back.
-/

namespace Uplink

/-- What becomes of the connection slot. -/
inductive SlotMark where
  /-- A connect request is accepted. -/
  | accepted
  /-- An attempt begins. -/
  | begun
  /-- It tries the broker. -/
  | dialled
  /-- It ends. -/
  | ended
deriving DecidableEq, Repr

/-- The marks of a request and the attempt that it brought about, from the slot being taken
to its being free again. The broker is tried once, or not at all. -/
def SlotMark.tenure (dialled : Bool) : List SlotMark :=
  [accepted, begun] ++ (if dialled then [SlotMark.dialled] else []) ++ [ended]

namespace Entry

variable {ν : Type} {entries more : List (Entry ν)}

/-- What becomes of the connection slot. -/
def slotMark? : Entry ν → Option SlotMark
  | called .connect (.ok _) => some .accepted
  | raised .connecting _ => some .begun
  | opened _ => some .dialled
  | raised .disconnected _ => some .ended
  | _ => none

/-- The broker is only tried for an accepted request that was picked up once, and only if
the end was not asked for in between. -/
def Commissioned (entries : List (Entry ν)) : Prop :=
  ∀ earlier broker later, entries = earlier ++ .opened broker :: later →
    ∃ before middle, earlier = before ++ .called .connect (.ok ()) :: middle ∧
      middle.filterMap slotMark? = [.begun] ∧ .called .disconnect (.ok ()) ∉ middle

/-- On a taken slot, every connect request is refused. -/
theorem OnDuty.refused {answer : Except BackendError Unit}
    (onDuty : (.called .connect answer : Entry ν).OnDuty) : answer = .error .inProgress := by
  obtain ⟨handle, active, rfl⟩ := onDuty
  rw [Handle.perform_connect active]

/-- On a taken slot, only the task moves on. -/
theorem slotMark?_of_onDuty {entry : Entry ν} (onDuty : entry.OnDuty)
    (other : entry.isDeed = false) : entry.slotMark? = none := by
  cases entry with
  | called call answer =>
    cases call with
    | connect =>
      rw [onDuty.refused]
      rfl
    | disconnect | publish | subscribe => rfl
  | noted | returned => rfl
  | raised | opened | received | handled | handed | aborted => cases other

theorem slotMarks_of_onDuty (onDuty : ∀ entry ∈ entries, entry.OnDuty) :
    entries.filterMap slotMark? = (entries.filter isDeed).filterMap slotMark? := by
  rw [List.filterMap_filter]
  refine List.filterMap_congr fun entry isEntry => ?_
  split
  · rfl
  · next other => exact slotMark?_of_onDuty (onDuty entry isEntry) (by simpa using other)

/-- What does not try the broker needs no request. -/
theorem Commissioned.append (commissioned : Commissioned entries)
    (idle : .dialled ∉ more.filterMap slotMark?) : Commissioned (entries ++ more) := by
  intro earlier broker later split
  obtain ⟨between, -, isMore⟩ | ⟨rest, isEntries, -⟩ := split_append split
  · exact absurd (by simp [isMore, slotMark?]) idle
  · exact commissioned earlier broker rest isEntries

theorem Commissioned.dial (commissioned : Commissioned entries)
    {before middle : List (Entry ν)} (broker : BrokerConfig)
    (accepted : entries = before ++ .called .connect (.ok ()) :: middle)
    (begun : middle.filterMap slotMark? = [.begun])
    (unasked : .called .disconnect (.ok ()) ∉ middle) :
    Commissioned (entries ++ [.opened broker]) := by
  intro earlier other later split
  obtain ⟨between, isEarlier, isLast⟩ | ⟨rest, isEntries, -⟩ := split_append split
  · cases between with
    | nil =>
      rw [List.append_nil] at isEarlier
      exact ⟨before, middle, isEarlier.trans accepted, begun, unasked⟩
    | cons head between => simp at isLast
  · exact commissioned earlier other rest isEntries

end Entry

namespace Handle

variable {ν : Type} {handle : Handle} {entries : List (Entry ν)}

/-- The slot is taken, and the end was not asked for in some entries unless the handle
says so. -/
def Remembers (handle : Handle) (entries : List (Entry ν)) : Prop :=
  handle.active = true ∧
    (handle.disconnectRequested = false → .called .disconnect (.ok ()) ∉ entries)

theorem Remembers.perform (remembers : handle.Remembers entries) (call : Call) :
    (handle.perform call).2.Remembers (entries ++ [.called call (handle.perform call).1]) := by
  obtain ⟨active, recalls⟩ := remembers
  refine ⟨perform_active active call, ?_⟩
  match performed : handle.perform call with
  | (answer, after) =>
    intro unasked isAsked
    rw [List.mem_append, List.mem_singleton] at isAsked
    cases perform_cases performed with
    | refused =>
      rcases isAsked with earlier | last
      · exact recalls unasked earlier
      · cases last
    | connected free | alone free => exact absurd (active.symm.trans free) nofun
    | disconnected => cases unasked
    | queued accepts packet =>
      rcases isAsked with earlier | last
      · exact recalls unasked earlier
      · cases last
        cases packet

/-- Handlers cannot make the handle forget. -/
theorem Remembers.run {α : Type} (remembers : handle.Remembers entries)
    (reaction : Reaction ν α) :
    (reaction.run handle).2.1.Remembers
      (entries ++ (reaction.run handle).2.2.map ReactionEntry.entry) := by
  induction reaction generalizing handle entries with
  | done result => simpa [Reaction.run] using remembers
  | note entry rest ih =>
    have noted : handle.Remembers (entries ++ [.noted entry]) := by
      refine ⟨remembers.1, fun unasked => ?_⟩
      simpa using remembers.2 unasked
    rw [Reaction.run, List.map_cons, List.append_cons]
    exact ih noted
  | call request next ih =>
    rw [Reaction.run, List.map_cons, List.append_cons]
    exact ih _ (remembers.perform request)
  | observe next ih => exact ih _ _ remembers

end Handle

namespace World

variable {σ ν : Type} {world after : World σ ν} {deeds : List (Entry ν)}

/-- What has become of the connection slot. -/
def slotMarks (world : World σ ν) : List SlotMark := world.history.filterMap Entry.slotMark?

theorem Does.slotMarks_eq (does : world.Does deeds after) :
    after.slotMarks = world.slotMarks ++ deeds.filterMap Entry.slotMark? := by
  obtain ⟨entries, grows, rfl, onDuty⟩ := does
  rw [slotMarks, grows.history_eq, List.filterMap_append, Entry.slotMarks_of_onDuty onDuty,
    slotMarks]

theorem Does.refused (does : world.Does deeds after) {answer : Except BackendError Unit}
    (called : .called .connect answer ∈ after.since world) : answer = .error .inProgress := by
  obtain ⟨entries, grows, -, onDuty⟩ := does
  rw [grows.since_eq] at called
  exact (onDuty _ called).refused

theorem Does.commissioned (does : world.Does deeds after)
    (idle : .dialled ∉ deeds.filterMap Entry.slotMark?)
    (commissioned : Entry.Commissioned world.history) : Entry.Commissioned after.history := by
  obtain ⟨entries, grows, rfl, onDuty⟩ := does
  rw [grows.history_eq]
  refine commissioned.append ?_
  rwa [Entry.slotMarks_of_onDuty onDuty]

/-- No request comes to wait in what the task does. -/
theorem Does.unsignalled (does : world.Does deeds after) (evolves : world.Evolves after)
    (unsignalled : world.handle.connectSignal = false) : after.handle.connectSignal = false := by
  obtain ⟨entries, grows, changes⟩ := evolves
  apply Bool.eq_false_iff.mpr
  intro signalled
  rcases changes.connected signalled with before | called
  · exact absurd (unsignalled.symm.trans before) nofun
  · rw [← grows.since_eq] at called
    cases does.refused called

/-- A call gets the slot, or it leaves the slot and the request that waits for it alone. -/
theorem call_slot (world : World σ ν) (request : Call) :
    request = .connect ∧ world.handle.active = false ∨
      (.called request (world.call request).1 : Entry ν).slotMark? = none ∧
        (world.call request).2.handle.active = world.handle.active ∧
        (world.call request).2.handle.connectSignal = world.handle.connectSignal := by
  unfold World.call
  match performed : world.handle.perform request with
  | (answer, after) =>
    cases Handle.perform_cases performed with
    | connected free => exact .inl ⟨rfl, free⟩
    | refused => cases request <;> exact .inr ⟨rfl, rfl, rfl⟩
    | disconnected | alone => exact .inr ⟨rfl, rfl, rfl⟩
    | queued accepts packet =>
      cases request with
      | connect | disconnect => cases packet
      | publish | subscribe => exact .inr ⟨rfl, rfl, rfl⟩

end World

namespace Setup

open Entry

variable {σ ν : Type} {setup : Setup σ ν} {world after : World σ ν} {deeds : List (Entry ν)}
  {stage : Stage}

/-- An attempt tries the broker in its first step, and its end is told in its last. -/
theorem FirstAct.slotMarks {now : Micros} (acts : setup.FirstAct now deeds stage) :
    (stage.isBusy = true ∧ deeds.filterMap slotMark? = [.begun, .dialled]) ∨
      (stage.isBusy = false ∧ ∃ dialled,
        .accepted :: deeds.filterMap slotMark? = SlotMark.tenure dialled) := by
  cases acts with
  | cancelled isOver => exact .inr ⟨isOver, false, rfl⟩
  | unreachable isOver => exact .inr ⟨isOver, true, rfl⟩
  | linked | pending => exact .inl ⟨rfl, rfl⟩

theorem slotMarks_tidings (packet : Inbound) (phase : Phase) :
    (.handled packet :: tidings phase packet : List (Entry ν)).filterMap slotMark? = [] := by
  rw [List.filterMap_cons_none rfl]
  refine filterMap_tidings (fun event phase begins ends => ?_) phase packet
  cases event with
  | connecting => exact absurd rfl begins
  | disconnected => exact absurd rfl ends
  | connected | ready | dataReceived => rfl

theorem Act.slotMarks (acts : setup.Act world deeds stage) :
    deeds.filterMap slotMark? = if stage.isBusy then [] else [.ended] := by
  cases acts with
  | unreachable _ isOver | sendFailed _ isOver | sentForClose _ isOver | unreadable _ _ isOver
  | refused _ _ _ isOver | broken _ isOver =>
    rw [isOver]
    rfl
  | settled | answered => exact slotMarks_tidings _ _
  | linked | sentForTurn | sentForDrain | drained | received | idled | pinging | requested
  | disconnecting => rfl

/-! ## The end of an attempt -/

/-- Once no attempt is under way, the slot is free. -/
def Yielded (world : World σ ν) : Prop :=
  world.stage.isBusy = false → world.handle.active = false

section

variable {client : Client} {packet : Outbound} {next : Continuation}

theorem Ends.yielded {marks : List (Entry ν)} (ends : setup.Ends world after marks) :
    Yielded after := by
  intro _
  rw [ends.reset]
  rfl

theorem yielded_giveUp (world : World σ ν) : Yielded (setup.giveUp world) := by
  obtain ⟨marks, ends⟩ := setup.exists_ends_giveUp world
  exact ends.yielded

theorem yielded_close (world : World σ ν) : Yielded (setup.close world) := by
  obtain ⟨marks, ends⟩ := setup.exists_ends_close world
  exact ends.yielded

theorem yielded_moveTo (busy : stage.isBusy = true) : Yielded (world.moveTo stage) :=
  fun isOver => absurd (busy.symm.trans isOver) nofun

theorem yielded_transmit : Yielded (setup.transmit client packet next world) := by
  unfold transmit
  split
  · exact yielded_moveTo rfl
  · exact yielded_close world

theorem yielded_beginSession : Yielded (setup.beginSession world) := by
  unfold beginSession
  exact yielded_transmit

theorem yielded_beginCase (begins : setup.BeginCase world after) : Yielded after := by
  cases begins with
  | cancelled | unreachable => exact yielded_giveUp _
  | linked => exact yielded_beginSession
  | pending => exact yielded_moveTo rfl

theorem yielded_packetCase {packet : Inbound}
    (follows : setup.PacketCase client world packet after) : Yielded after := by
  cases follows with
  | refused => exact yielded_close world
  | acknowledged | released => exact yielded_transmit
  | accepted | repeated | dropped | delivered | settled | subscribed | pinged =>
    exact yielded_moveTo rfl

theorem yielded_stepCase (busy : world.stage.isBusy = true) (follows : setup.StepCase world after) :
    Yielded after := by
  cases follows with
  | served stage | begunOnce stage | begunServing stage => simp [stage, Stage.isBusy] at busy
  | linked => exact yielded_beginSession
  | unreachable => exact yielded_giveUp world
  | sendFailed | sentForClose | unreadable | crowded | hungUp | linkFailed => exact yielded_close _
  | sentForTurn | sentForDrain | drained | received | idled => exact yielded_moveTo rfl
  | handled stage reads packetFollows => exact yielded_packetCase packetFollows
  | pinging | requested | disconnecting => exact yielded_transmit

end

end Setup

end Uplink
