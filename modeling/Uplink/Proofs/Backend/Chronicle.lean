import Uplink.Proofs.Backend.Calls
import Uplink.Proofs.Backend.Interleaving
import Uplink.Proofs.Backend.StepCases

/-!
# What worlds record

A trace only grows. `World.Grows` names what is recorded between two worlds, and the
lemmas here say what each part of a step adds to the trace and which fields it leaves
alone. A handler adds its calls and notes behind the event that it was told of.
-/

namespace Uplink

/-- Whether a packet carries out a caller's request. -/
def Outbound.isRequest : Outbound → Bool
  | publish _ | subscribe _ => true
  | connect _ | acknowledge _ _ | pingReq | disconnect => false

namespace Entry

variable {ν : Type}

/-- The event that was raised. -/
def event? : Entry ν → Option Event
  | raised event _ => some event
  | _ => none

/-- The answer to a connection request that was handled. -/
def connAck? : Entry ν → Option ConnAck
  | handled (.connAck answer) => some answer
  | _ => none

/-- The packet that an accepted call is owed. -/
def owed? : Entry ν → Option (UInt16 → Outbound)
  | called call answer => call.owed? answer
  | _ => none

/-- The request that was given to the link. -/
def request? : Entry ν → Option Outbound
  | handed packet _ _ => if packet.isRequest then some packet else none
  | _ => none

theorem filterMap_owed?_called (call : Call) (answer : Except BackendError Unit)
    (entries : List (Entry ν)) :
    (called call answer :: entries).filterMap owed? =
      (call.owed? answer).toList ++ entries.filterMap owed? := by
  cases owed : call.owed? answer <;> simp [owed?, owed]

/-- What is neither a call nor a note is not found in what a reaction leaves. -/
theorem filterMap_reaction {β : Type} {view : Entry ν → Option β}
    (calls : ∀ call answer, view (called call answer) = none)
    (notes : ∀ note, view (noted note) = none) (entries : List (ReactionEntry ν)) :
    (entries.map ReactionEntry.entry).filterMap view = [] := by
  induction entries with
  | nil => rfl
  | cons entry entries ih =>
    cases entry with
    | called call answer => simpa [ReactionEntry.entry, calls] using ih
    | noted note => simpa [ReactionEntry.entry, notes] using ih

end Entry

/-- The queue grows by what is owed to the calls of a reaction. -/
theorem Reaction.run_requests {ν α : Type} (reaction : Reaction ν α) (handle : Handle) :
    (reaction.run handle).2.1.requests.map Request.packet =
      handle.requests.map Request.packet ++
        ((reaction.run handle).2.2.map ReactionEntry.entry).filterMap Entry.owed? := by
  induction reaction generalizing handle with
  | done result => simp [run]
  | note entry rest ih => exact ih handle
  | call request next ih =>
    simp only [run, List.map_cons, ReactionEntry.entry, ih, Handle.perform_requests,
      Entry.filterMap_owed?_called, List.append_assoc]
  | observe next ih => exact ih _ _ handle

/-- In a phase that accepts no requests, nothing is owed to a reaction. -/
theorem Reaction.owed_of_rejects {ν α : Type} (reaction : Reaction ν α) {handle : Handle}
    (rejects : handle.phase.acceptsRequests = false) :
    ((reaction.run handle).2.2.map ReactionEntry.entry).filterMap Entry.owed? = [] := by
  induction reaction generalizing handle with
  | done result => rfl
  | note entry rest ih => exact ih rejects
  | call request next ih =>
    have stillRejects : (handle.perform request).2.phase.acceptsRequests = false := by
      simpa using rejects
    simp only [run, List.map_cons, ReactionEntry.entry, Entry.filterMap_owed?_called,
      Handle.owed?_perform_of_rejects rejects, Option.toList_none, List.nil_append]
    exact ih _ stillRejects
  | observe next ih => exact ih _ _ rejects

namespace World

variable {σ ν : Type} {before world after : World σ ν} {entries more : List (Entry ν)}

/-- The entries that a world has recorded since an earlier one. -/
def Grows (before : World σ ν) (entries : List (Entry ν)) (after : World σ ν) : Prop :=
  after.trace = entries.reverse ++ before.trace

theorem Grows.refl (world : World σ ν) : world.Grows [] world := rfl

theorem Grows.append (first : before.Grows entries world) (second : world.Grows more after) :
    before.Grows (entries ++ more) after := by
  unfold Grows at first second ⊢
  rw [second, first, List.reverse_append, List.append_assoc]

theorem Grows.since_eq (grows : before.Grows entries after) : after.since before = entries := by
  unfold Grows at grows
  have length : after.trace.length - before.trace.length = entries.reverse.length := by
    simp [grows]
  rw [since, length, grows, List.take_left, List.reverse_reverse]

/-- What has happened, in order. -/
def history (world : World σ ν) : List (Entry ν) := world.trace.reverse

theorem Grows.history_eq (grows : before.Grows entries after) :
    after.history = before.history ++ entries := by
  rw [history, grows, List.reverse_append, List.reverse_reverse, history]

theorem grows_record (world : World σ ν) (entry : Entry ν) :
    world.Grows [entry] (world.record entry) := rfl

theorem grows_call (world : World σ ν) (request : Call) :
    world.Grows [.called request (world.handle.perform request).1] (world.call request).2 := rfl

/-- The world in which the task enters a phase. -/
def inPhase (world : World σ ν) (phase : Phase) : World σ ν :=
  { world with handle := { world.handle with phase } }

/-- The world in which an attempt has the slot. -/
def claimed (world : World σ ν) : World σ ν :=
  { world with handle := world.handle.claim?.getD world.handle }

@[simp] theorem claimed_requests (world : World σ ν) :
    world.claimed.handle.requests = world.handle.requests := by
  simp only [claimed, Handle.claim?]
  split <;> rfl

section

variable (world : World σ ν) (entry : Entry ν) (stage : Stage)

@[simp] theorem record_handle : (world.record entry).handle = world.handle := rfl

@[simp] theorem record_stage : (world.record entry).stage = world.stage := rfl

@[simp] theorem record_link : (world.record entry).link = world.link := rfl

@[simp] theorem moveTo_handle : (world.moveTo stage).handle = world.handle := rfl

@[simp] theorem moveTo_stage : (world.moveTo stage).stage = stage := rfl

@[simp] theorem moveTo_link : (world.moveTo stage).link = world.link := rfl

@[simp] theorem moveTo_trace : (world.moveTo stage).trace = world.trace := rfl

@[simp] theorem inPhase_phase (phase : Phase) : (world.inPhase phase).handle.phase = phase := rfl

end

end World

namespace Setup

variable {σ ν : Type} (setup : Setup σ ν)

/-- The handler's calls and notes on an event. -/
def remarks (event : Event) (world : World σ ν) : List (Entry ν) :=
  ((setup.handler.react event world.handlerState).run world.handle).2.2.map ReactionEntry.entry

/-- What is recorded when an event is raised: the event, and what the handler does on it. -/
def voice (event : Event) (world : World σ ν) : List (Entry ν) :=
  .raised event world.handle.phase :: setup.remarks event world

theorem raise_eq (event : Event) (world : World σ ν) :
    setup.raise event world = { world with
      handlerState := ((setup.handler.react event world.handlerState).run world.handle).1
      handle := ((setup.handler.react event world.handlerState).run world.handle).2.1
      trace := (setup.voice event world).reverse ++ world.trace } := by
  simp only [raise, voice, List.reverse_cons, List.append_assoc, List.singleton_append]
  rfl

section

variable (event : Event) (world : World σ ν)

@[simp] theorem filterMap_event?_remarks :
    (setup.remarks event world).filterMap Entry.event? = [] :=
  Entry.filterMap_reaction (fun _ _ => rfl) (fun _ => rfl) _

@[simp] theorem filterMap_request?_remarks :
    (setup.remarks event world).filterMap Entry.request? = [] :=
  Entry.filterMap_reaction (fun _ _ => rfl) (fun _ => rfl) _

@[simp] theorem filterMap_connAck?_remarks :
    (setup.remarks event world).filterMap Entry.connAck? = [] :=
  Entry.filterMap_reaction (fun _ _ => rfl) (fun _ => rfl) _

@[simp] theorem filterMap_event?_voice :
    (setup.voice event world).filterMap Entry.event? = [event] := by
  simp [voice, Entry.event?]

@[simp] theorem filterMap_request?_voice :
    (setup.voice event world).filterMap Entry.request? = [] := by
  rw [voice, List.filterMap_cons_none rfl, filterMap_request?_remarks]

@[simp] theorem filterMap_connAck?_voice :
    (setup.voice event world).filterMap Entry.connAck? = [] := by
  rw [voice, List.filterMap_cons_none rfl, filterMap_connAck?_remarks]

end

theorem filterMap_owed?_voice (event : Event) {world : World σ ν}
    (rejects : world.handle.phase.acceptsRequests = false) :
    (setup.voice event world).filterMap Entry.owed? = [] :=
  Reaction.owed_of_rejects _ rejects

/-- The only event in what is recorded for an event is that event, in its phase. -/
theorem raised_mem_voice {event raised : Event} {phase : Phase} {world : World σ ν}
    (isRaised : .raised raised phase ∈ setup.voice event world) :
    raised = event ∧ phase = world.handle.phase := by
  rcases List.mem_cons.mp isRaised with same | left
  · cases same
    exact ⟨rfl, rfl⟩
  · obtain ⟨entry, _, entryEq⟩ := List.mem_map.mp left
    cases entry <;> cases entryEq

theorem grows_raise (event : Event) (world : World σ ν) :
    world.Grows (setup.voice event world) (setup.raise event world) := by
  rw [raise_eq]
  rfl

section

variable (phase : Phase) (event : Event) (world : World σ ν)

@[simp] theorem raise_stage : (setup.raise event world).stage = world.stage := by
  rw [raise_eq]

@[simp] theorem raise_link : (setup.raise event world).link = world.link := by
  rw [raise_eq]

@[simp] theorem raise_serving : (setup.raise event world).serving = world.serving := by
  rw [raise_eq]

/-- What calls preserve, a handler preserves. -/
theorem raise_handle_induction {motive : Handle → Prop}
    (preserved : ∀ handle call, motive handle → motive (handle.perform call).2)
    (start : motive world.handle) : motive (setup.raise event world).handle := by
  rw [raise_eq]
  exact Reaction.run_induction preserved _ start

@[simp] theorem raise_phase : (setup.raise event world).handle.phase = world.handle.phase :=
  setup.raise_handle_induction event world (motive := fun handle => handle.phase = _)
    (fun _ _ same => (Handle.perform_phase _ _).trans same) rfl

/-- The queue grows by what is owed to the calls of the handler. -/
theorem raise_requests :
    (setup.raise event world).handle.requests.map Request.packet =
      world.handle.requests.map Request.packet ++
        (setup.voice event world).filterMap Entry.owed? := by
  rw [raise_eq]
  exact Reaction.run_requests _ _

@[simp] theorem enter_stage : (setup.enter phase event world).stage = world.stage := by
  simp [enter]

@[simp] theorem enter_link : (setup.enter phase event world).link = world.link := by
  simp [enter]

@[simp] theorem enter_serving : (setup.enter phase event world).serving = world.serving := by
  simp [enter]

@[simp] theorem enter_phase : (setup.enter phase event world).handle.phase = phase := by
  simp [enter]

end

theorem grows_enter (phase : Phase) (event : Event) (world : World σ ν) :
    world.Grows (setup.voice event (world.inPhase phase)) (setup.enter phase event world) :=
  setup.grows_raise event _

/-- The queue grows by what is owed to the calls of the handler. -/
theorem enter_requests (phase : Phase) (event : Event) (world : World σ ν) :
    (setup.enter phase event world).handle.requests.map Request.packet =
      world.handle.requests.map Request.packet ++
        (setup.voice event (world.inPhase phase)).filterMap Entry.owed? :=
  setup.raise_requests event _

theorem grows_greet (world : World σ ν) :
    world.Grows (setup.voice .connecting (world.claimed.inPhase .connecting))
      (setup.greet world) :=
  setup.grows_enter .connecting .connecting world.claimed

@[simp] theorem greet_phase (world : World σ ν) :
    (setup.greet world).handle.phase = .connecting := by
  simp [greet]

/-- No request is accepted while the handler learns that an attempt begins. -/
theorem greet_requests (world : World σ ν) :
    (setup.greet world).handle.requests.map Request.packet =
      world.handle.requests.map Request.packet := by
  have queue := setup.enter_requests .connecting .connecting world.claimed
  rwa [setup.filterMap_owed?_voice .connecting rfl, List.append_nil,
    world.claimed_requests] at queue

/-- What is recorded when the acceptance of a session is told. -/
def acceptance (world : World σ ν) : List (Entry ν) :=
  setup.voice .connected (world.inPhase .connected) ++
    setup.voice .ready ((setup.enter .connected .connected world).inPhase .ready)

theorem grows_acceptance (world : World σ ν) :
    world.Grows (setup.acceptance world)
      (setup.enter .ready .ready (setup.enter .connected .connected world)) :=
  (setup.grows_enter .connected .connected world).append (setup.grows_enter .ready .ready _)

/-- The queue grows by what is owed to the calls of the handler. -/
theorem acceptance_requests (world : World σ ν) :
    (setup.enter .ready .ready (setup.enter .connected .connected world)).handle.requests.map
        Request.packet =
      world.handle.requests.map Request.packet ++
        (setup.acceptance world).filterMap Entry.owed? := by
  rw [enter_requests, enter_requests, List.append_assoc, ← List.filterMap_append]
  rfl

/-- What is recorded when the end of an attempt is told. -/
def farewell (world : World σ ν) : List (Entry ν) :=
  setup.voice .disconnected (world.inPhase .disconnected)

/-- How an attempt ends in a world: the end is told, and then only marks are recorded. -/
structure Ends (world after : World σ ν) (marks : List (Entry ν)) : Prop where
  grows : world.Grows (setup.farewell world ++ marks) after
  marksOnly : ∀ mark ∈ marks, mark = .aborted ∨ mark = .returned
  ended : after.stage.isBusy = false
  reset : after.handle = (setup.enter .disconnected .disconnected world).handle.reset

/-- Giving the slot back leaves at most the mark of a single attempt. -/
theorem finish_cases (world : World σ ν) :
    (world.serving = true ∧
      finish world = { world with handle := world.handle.reset, stage := .awaitingRequest }) ∨
    (world.serving = false ∧
      finish world = { world with
        handle := world.handle.reset, stage := .resting, trace := .returned :: world.trace }) := by
  unfold finish
  cases serving : world.serving with
  | true =>
    left
    simp [World.moveTo]
  | false =>
    right
    simp [World.moveTo, World.record]

/-- The end is told before the slot is given back. -/
theorem exists_ends_finish {world last : World σ ν} (marks : List (Entry ν))
    (grows : world.Grows (setup.farewell world ++ marks) last)
    (marksOnly : ∀ mark ∈ marks, mark = .aborted ∨ mark = .returned)
    (handle : last.handle = (setup.enter .disconnected .disconnected world).handle) :
    ∃ all, setup.Ends world (finish last) all := by
  rcases finish_cases last with ⟨_, finished⟩ | ⟨_, finished⟩
  · rw [finished]
    exact ⟨marks, grows, marksOnly, rfl, congrArg Handle.reset handle⟩
  · have returned : world.Grows (setup.farewell world ++ (marks ++ [.returned])) (finish last) := by
      rw [finished, ← List.append_assoc]
      exact grows.append (last.grows_record .returned)
    refine ⟨marks ++ [.returned], returned, ?_, by rw [finished]; rfl, ?_⟩
    · intro mark isMark
      rcases List.mem_append.mp isMark with earlier | last
      · exact marksOnly mark earlier
      · exact .inr (List.mem_singleton.mp last)
    · rw [finished]
      exact congrArg Handle.reset handle

/-- Giving up ends an attempt. -/
theorem exists_ends_giveUp (world : World σ ν) :
    ∃ marks, setup.Ends world (setup.giveUp world) marks := by
  refine setup.exists_ends_finish [] ?_ (List.forall_mem_nil _) rfl
  rw [List.append_nil]
  exact setup.grows_enter .disconnected .disconnected world

/-- Closing ends an attempt, and drops the link. -/
theorem exists_ends_close (world : World σ ν) :
    ∃ marks, setup.Ends world (setup.close world) marks := by
  refine setup.exists_ends_finish [.aborted] ?_ (by simp) rfl
  exact (setup.grows_enter .disconnected .disconnected world).append (World.grows_record _ .aborted)

variable {setup}

/-- The marks at the end are neither events nor anything else that is told. -/
theorem Ends.filterMap_marks {β : Type} {view : Entry ν → Option β} {world after : World σ ν}
    {marks : List (Entry ν)} (ends : setup.Ends world after marks)
    (aborted : view .aborted = none) (returned : view .returned = none) :
    marks.filterMap view = [] := by
  refine List.filterMap_eq_nil_iff.mpr fun mark isMark => ?_
  rcases ends.marksOnly mark isMark with rfl | rfl
  · exact aborted
  · exact returned

end Setup

end Uplink
