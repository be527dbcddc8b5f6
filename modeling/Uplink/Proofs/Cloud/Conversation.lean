import Uplink.Cloud.TableApplication
import Uplink.Proofs.Backend.Notifications

/-!
# What the application is told of an attempt

The application is told less than the backend raises, and some of it by another name.
`Translator.told` is what it is told of some entries. Since the events of an attempt are a
word of `EventKind.attempt`, what it is told is a word of `CloudEventKind.attempt`, which is
the same expression with its letters translated.
-/

namespace Uplink

open RegularExpression

namespace CloudEventKind

/-- What is told of an attempt that is under way. -/
def underway : RegularExpression CloudEventKind :=
  char .connecting * (char .dataReceived).star *
    (1 + char .connected * (char .dataReceived).star)

/-- What is told of a whole attempt. -/
def attempt : RegularExpression CloudEventKind := underway * char .disconnected

end CloudEventKind

/-- The payload of a message that arrived. -/
def Event.payload? : Event → Option Bytes
  | .dataReceived _ payload => some payload
  | .connecting | .connected | .ready | .disconnected => none

/-- The payload that the application is told of. -/
def CloudEvent.payload? : CloudEvent → Option Bytes
  | .dataReceived payload => some payload
  | .connecting | .connected | .disconnected => none

namespace Translator

/-- The kind of what the application is told of an event. -/
def forwardKind? : EventKind → Option CloudEventKind
  | .connecting => some .connecting
  | .connected => none
  | .ready => some .connected
  | .disconnected => some .disconnected
  | .dataReceived => some .dataReceived

theorem kind_forward? (event : Event) :
    (forward? event).map CloudEvent.kind = forwardKind? event.kind := by
  cases event <;> rfl

/-- What the application is told of a message is its payload. -/
theorem payload?_forward? (event : Event) :
    (forward? event).bind CloudEvent.payload? = event.payload? := by
  cases event <;> rfl

/-- An expression with its letters translated, and those dropped that have no translation. -/
def translate {α β : Type} (letter : α → Option β) : RegularExpression α → RegularExpression β
  | .zero => 0
  | .epsilon => 1
  | .char a => (letter a).elim 1 .char
  | .plus first second => translate letter first + translate letter second
  | .comp first second => translate letter first * translate letter second
  | .star repeated => (translate letter repeated).star

/-- The translation of a word is a word of the translated expression. -/
theorem filterMap_mem_translate {α β : Type} (letter : α → Option β)
    (expression : RegularExpression α) {word : List α} (isWord : word ∈ expression.matches') :
    word.filterMap letter ∈ (translate letter expression).matches' := by
  induction expression generalizing word with
  | zero => exact absurd isWord (Language.notMem_zero word)
  | epsilon =>
    obtain rfl := (Language.mem_one word).mp isWord
    rfl
  | char a =>
    obtain rfl : word = [a] := isWord
    rw [translate]
    cases translated : letter a with
    | none => simp [translated]
    | some b =>
      rw [List.filterMap_cons_some translated]
      rfl
  | plus first second ihFirst ihSecond =>
    rcases (Language.mem_add _ _ _).mp isWord with isFirst | isSecond
    · exact (Language.mem_add _ _ _).mpr (.inl (ihFirst isFirst))
    · exact (Language.mem_add _ _ _).mpr (.inr (ihSecond isSecond))
  | comp first second ihFirst ihSecond =>
    obtain ⟨front, isFront, back, isBack, rfl⟩ := Language.mem_mul.mp isWord
    rw [List.filterMap_append]
    exact Language.append_mem_mul (ihFirst isFront) (ihSecond isBack)
  | star repeated ih =>
    obtain ⟨pieces, rfl, arePieces⟩ := Language.mem_kstar.mp isWord
    refine Language.mem_kstar.mpr ⟨pieces.map (·.filterMap letter), ?_, fun piece isPiece => ?_⟩
    · exact List.filterMap_flatten
    · obtain ⟨original, isOriginal, rfl⟩ := List.mem_map.mp isPiece
      exact ih (arePieces original isOriginal)

theorem matches'_translate_underway :
    (translate forwardKind? EventKind.underway).matches' = CloudEventKind.underway.matches' := by
  have translated : translate forwardKind? EventKind.underway =
      char .connecting * (char .dataReceived).star *
        (1 + 1 * char .connected * (char .dataReceived).star) := rfl
  simp only [translated, CloudEventKind.underway, matches'_mul, matches'_add, matches'_epsilon,
    one_mul]

theorem matches'_translate_attempt :
    (translate forwardKind? EventKind.attempt).matches' = CloudEventKind.attempt.matches' := by
  have translated : translate forwardKind? EventKind.attempt =
      translate forwardKind? EventKind.underway * char .disconnected := rfl
  rw [translated, matches'_mul, matches'_translate_underway, CloudEventKind.attempt, matches'_mul]

variable {ν : Type}

/-- What the application is told in some entries. -/
def told (entries : List (Entry ν)) : List CloudEvent :=
  (entries.filterMap Entry.event?).filterMap forward?

theorem map_kind_told (entries : List (Entry ν)) :
    (told entries).map CloudEvent.kind = (Entry.kinds entries).filterMap forwardKind? := by
  rw [told, Entry.kinds, List.map_filterMap, List.filterMap_map]
  exact List.filterMap_congr fun event _ => kind_forward? event

/-- The messages that the application is told of are those that were delivered. -/
theorem filterMap_payload?_told (entries : List (Entry ν)) :
    (told entries).filterMap CloudEvent.payload? =
      (entries.filterMap Entry.event?).filterMap Event.payload? := by
  rw [told, List.filterMap_filterMap]
  exact List.filterMap_congr fun event _ => payload?_forward? event

/-- What the application is told in some entries: a word of some shape, in which every message
is as it was delivered. -/
structure Relayed (shape : RegularExpression CloudEventKind) (entries : List (Entry ν)) :
    Prop where
  word : (told entries).map CloudEvent.kind ∈ shape.matches'
  exact_payloads : (told entries).filterMap CloudEvent.payload? =
    (entries.filterMap Entry.event?).filterMap Event.payload?

end Translator

namespace Setup

variable {σ ν : Type} {setup : Setup σ ν} {before world : World σ ν}

/-- What the application is told of an attempt is a word of its shape. -/
theorem Attempt.relayed (attempt : setup.Attempt before world) :
    Translator.Relayed
      (if world.stage.isBusy then CloudEventKind.underway else CloudEventKind.attempt)
      (world.since before) := by
  obtain ⟨underway, ended⟩ := attempt.recounted
  refine ⟨?_, Translator.filterMap_payload?_told _⟩
  rw [Translator.map_kind_told]
  cases busy : world.stage.isBusy with
  | true =>
    obtain ⟨entries, grows, truthful, heard⟩ := underway busy
    rw [if_pos rfl, ← Translator.matches'_translate_underway, grows.since_eq]
    exact Translator.filterMap_mem_translate _ _ (heard.told truthful).word
  | false =>
    obtain ⟨entries, grows, told⟩ := ended busy
    rw [if_neg nofun, ← Translator.matches'_translate_attempt, grows.since_eq]
    exact Translator.filterMap_mem_translate _ _ told.word

end Setup

end Uplink
