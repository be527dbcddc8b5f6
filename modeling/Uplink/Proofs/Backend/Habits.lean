import Uplink.Proofs.Backend.Evolution

/-!
# Habits of what is recorded

A habit is a property of what is recorded that a whole has when its parts have it, and that
only calls, notes and the acceptance of a session can break. When a handler keeps a habit, but
for what it does on the acceptance, then every step of an attempt keeps it or accepts the
session: `Setup.Upholds.step`.
-/

namespace Uplink

/-- An entry that is neither a call nor a note, and does not accept a session. -/
def Entry.Incidental {ν : Type} : Entry ν → Prop
  | .called _ _ | .noted _ => False
  | .raised event _ => event ≠ .connected ∧ event ≠ .ready
  | _ => True

/-- A property that goes over from what is recorded first and what is recorded then to both
together, and that incidental entries have. -/
structure Habit {ν : Type} (P : List (Entry ν) → Prop) : Prop where
  nil : P []
  append : ∀ {first second}, P first → P second → P (first ++ second)
  incidental : ∀ {entry : Entry ν}, entry.Incidental → P [entry]

namespace World

variable {σ ν : Type} {before world after : World σ ν} {P : List (Entry ν) → Prop}

/-- What was recorded between two worlds keeps a habit. -/
def Habitually (world : World σ ν) (P : List (Entry ν) → Prop) (after : World σ ν) : Prop :=
  ∃ entries, world.Grows entries after ∧ P entries

theorem Habitually.of_trace (habit : Habit P) (same : after.trace = world.trace) :
    world.Habitually P after := ⟨[], same, habit.nil⟩

theorem Habitually.trans (habit : Habit P) (first : before.Habitually P world)
    (second : world.Habitually P after) : before.Habitually P after := by
  obtain ⟨entries, grows, kept⟩ := first
  obtain ⟨more, growsMore, keptMore⟩ := second
  exact ⟨entries ++ more, grows.append growsMore, habit.append kept keptMore⟩

theorem habitually_record (habit : Habit P) (world : World σ ν) {entry : Entry ν}
    (incidental : entry.Incidental) : world.Habitually P (world.record entry) :=
  ⟨[entry], world.grows_record entry, habit.incidental incidental⟩

end World

namespace Setup

open World

variable {σ ν : Type} {setup : Setup σ ν} {before world after : World σ ν} {client : Client}
  {packet : Outbound} {next : Continuation} {P : List (Entry ν) → Prop}

/-- What the handler does keeps a habit, but for what it does on the acceptance of a
session. -/
def Upholds (setup : Setup σ ν) (P : List (Entry ν) → Prop) : Prop :=
  ∀ event, event ≠ .connected → ∀ world, P (setup.remarks event world)

variable (habit : Habit P) (upholds : setup.Upholds P)

include habit upholds

theorem Upholds.voice (event : Event) (unaccepted : event ≠ .connected) (unready : event ≠ .ready)
    (world : World σ ν) : P (setup.voice event world) := by
  have told : P [.raised event world.handle.phase] := habit.incidental ⟨unaccepted, unready⟩
  exact habit.append told (upholds event unaccepted world)

theorem Upholds.raise_data (topic : String) (payload : Bytes) (world : World σ ν) :
    world.Habitually P (setup.raise (.dataReceived topic payload) world) := by
  refine ⟨_, setup.grows_raise _ world, ?_⟩
  exact upholds.voice habit (.dataReceived topic payload) nofun nofun world

theorem Upholds.ends {marks : List (Entry ν)} (ends : setup.Ends world after marks) :
    world.Habitually P after := by
  have farewell := upholds.voice habit .disconnected nofun nofun (world.inPhase .disconnected)
  refine ⟨_, ends.grows, habit.append farewell ?_⟩
  have marksOnly := ends.marksOnly
  clear ends
  induction marks with
  | nil => exact habit.nil
  | cons mark marks ih =>
    obtain ⟨isMark, others⟩ := List.forall_mem_cons.mp marksOnly
    have incidental : mark.Incidental := by rcases isMark with rfl | rfl <;> trivial
    exact habit.append (habit.incidental incidental) (ih others)

theorem Upholds.giveUp (world : World σ ν) : world.Habitually P (setup.giveUp world) := by
  obtain ⟨marks, ends⟩ := setup.exists_ends_giveUp world
  exact upholds.ends habit ends

theorem Upholds.close (world : World σ ν) : world.Habitually P (setup.close world) := by
  obtain ⟨marks, ends⟩ := setup.exists_ends_close world
  exact upholds.ends habit ends

theorem Upholds.transmit (world : World σ ν) :
    world.Habitually P (setup.transmit client packet next world) := by
  unfold Setup.transmit
  split
  · exact .of_trace habit rfl
  · exact upholds.close habit world

theorem Upholds.beginSession (world : World σ ν) :
    world.Habitually P (setup.beginSession world) := by
  unfold Setup.beginSession
  have forgets : world.Habitually P { world with link := world.link.forget } :=
    .of_trace habit rfl
  exact forgets.trans habit (upholds.transmit habit _)

/-- An attempt begins without the acceptance of a session. -/
theorem Upholds.begin (begins : setup.BeginCase before.prepared after) :
    before.Habitually P after := by
  have greets : before.Habitually P (setup.greet before.prepared) :=
    ⟨_, setup.grows_greet_prepared before, upholds.voice habit .connecting nofun nofun _⟩
  have opens : (Entry.opened setup.config.broker : Entry ν).Incidental := trivial
  have tries : before.Habitually P (setup.dial (setup.greet before.prepared)) :=
    greets.trans habit (habitually_record habit _ opens)
  cases begins with
  | cancelled => exact greets.trans habit (upholds.giveUp habit _)
  | unreachable => exact tries.trans habit (upholds.giveUp habit _)
  | linked => exact tries.trans habit (upholds.beginSession habit _)
  | pending => exact tries.trans habit (.of_trace habit rfl)

/-- What a packet calls for keeps the habit, unless it accepts the session. -/
theorem Upholds.handle {packet : Inbound}
    (follows : setup.PacketCase client (world.record (.handled packet)) packet after) :
    world.Habitually P after ∨ world.handle.phase = .connecting ∧
      ∃ answer, world.Grows (.handled (.connAck answer) ::
        setup.acceptance (world.record (.handled (.connAck answer)))) after := by
  have takes : world.Habitually P (world.record (.handled packet)) :=
    habitually_record habit world trivial
  cases follows with
  | @accepted answer success first =>
    exact .inr ⟨first, answer, (world.grows_record _).append (setup.grows_acceptance _)⟩
  | refused => exact .inl (takes.trans habit (upholds.close habit _))
  | @acknowledged message =>
    have told := takes.trans habit (upholds.raise_data habit message.topic message.payload _)
    exact .inl (told.trans habit (upholds.transmit habit _))
  | @delivered message =>
    have told := takes.trans habit (upholds.raise_data habit message.topic message.payload _)
    exact .inl (told.trans habit (.of_trace habit rfl))
  | released => exact .inl (takes.trans habit (upholds.transmit habit _))
  | repeated | dropped | settled | subscribed | pinged =>
    exact .inl (takes.trans habit (.of_trace habit rfl))

/-- A step of an attempt keeps the habit, or it accepts the session. -/
theorem Upholds.step (busy : world.stage.isBusy = true) (follows : setup.StepCase world after) :
    world.Habitually P after ∨ world.handle.phase = .connecting ∧
      ∃ answer, world.Grows (.handled (.connAck answer) ::
        setup.acceptance (world.record (.handled (.connAck answer)))) after := by
  have same {other : World σ ν} (trace : other.trace = world.trace) :
      world.Habitually P other := .of_trace habit trace
  have given (packet : Outbound) (frame : Bytes) (taken : Bool) :
      world.Habitually P (world.record (.handed packet frame taken)) :=
    habitually_record habit world trivial
  cases follows with
  | served stage | begunOnce stage | begunServing stage => simp [stage, Stage.isBusy] at busy
  | linked => exact .inl (upholds.beginSession habit world)
  | unreachable => exact .inl (upholds.giveUp habit world)
  | sendFailed | sentForClose => exact .inl ((given _ _ _).trans habit (upholds.close habit _))
  | sentForTurn | sentForDrain => exact .inl ((given _ _ _).trans habit (.of_trace habit rfl))
  | unreadable | crowded => exact .inl (upholds.close habit world)
  | hungUp | linkFailed => exact .inl ((same rfl).trans habit (upholds.close habit _))
  | drained | idled => exact .inl (same rfl)
  | handled _ _ packetFollows => exact upholds.handle habit packetFollows
  | @received _ _ _ bytes link =>
    have receives : ({ world with link } : World σ ν).Habitually P
        (({ world with link } : World σ ν).record (.received bytes)) :=
      habitually_record habit _ trivial
    exact .inl (((same rfl).trans habit receives).trans habit (.of_trace habit rfl))
  | pinging => exact .inl (upholds.transmit habit world)
  | requested | disconnecting => exact .inl ((same rfl).trans habit (upholds.transmit habit _))

end Setup

end Uplink
