import Uplink.Proofs.Backend.Introduction
import Uplink.Proofs.Cloud.Sends
import Uplink.Proofs.Identity.LineNoise

/-!
# Devices apart

Whatever way an identifier comes about, it is one plain level of a topic. So each topic of a
device has exactly two levels and no wildcard, and can be taken apart again: two devices
share a topic only if they share the identifier. `Setup.Introduces` carries the identifier on
to the broker, to which every session introduces itself under it.
-/

namespace Uplink

/-! ## Identifiers -/

namespace ClientId

/-- What makes a text of a limited size an identifier. -/
structure IsLevel (text : String) (limit : Nat) : Prop where
  nonempty : text ≠ ""
  short : text.utf8ByteSize ≤ limit
  plain : ∀ c ∈ text.toList, c ≠ '/' ∧ c ≠ '+' ∧ c ≠ '#' ∧ Text.isBlank c = false

theorem isLevel (id : ClientId) : IsLevel id.text Limits.clientId where
  nonempty := by simpa using id.nonempty
  short := id.fits
  plain := fun c isIn => isPlain_iff.mp (List.all_eq_true.mp id.plain c isIn)

theorem ext_text {id other : ClientId} (same : id.text = other.text) : id = other := by
  cases id
  cases other
  cases same
  rfl

end ClientId

/-- Taking white space away makes no text longer. -/
theorem Text.utf8ByteSize_trimEnd_le (text : String) :
    (trimEnd text).utf8ByteSize ≤ text.utf8ByteSize := by
  obtain ⟨blank, split⟩ := List.rdropWhile_prefix isBlank text.toList
  have whole : trimEnd text ++ String.ofList blank = text := by
    rw [← String.toList_inj, String.toList_append, toList_trimEnd, String.toList_ofList, split]
  have size := congrArg String.utf8ByteSize whole
  rw [String.utf8ByteSize_append] at size
  omega

/-- What a device tells gives an identifier of at most as many bytes as count. -/
theorem ClientId.short_of_ofIdentity {answer : IdentityAnswer} {id : ClientId}
    (told : ofIdentity answer = .ok id) : id.text.utf8ByteSize ≤ IdentityAnswer.kept := by
  cases answer with
  | failed => cases told
  | written bytes length =>
    simp only [ofIdentity] at told
    split at told
    · cases told
    · next text spelled =>
      rw [custom_eq_ok_iff.mp told]
      refine (Text.utf8ByteSize_trimEnd_le text).trans ?_
      rw [← Utf8.length_encode, Utf8.encode_of_decode? spelled, List.length_take]
      omega

/-! ## Topics -/

/-- What a topic of a device is for. -/
inductive TopicKind where
  | cfg
  | batch
  | messages
deriving DecidableEq, Repr

/-- The last level of a topic. -/
def TopicKind.leaf : TopicKind → String
  | cfg => "cfg"
  | batch => "batch"
  | messages => "messages"

namespace TopicSet

/-- One of the topics of a device. -/
def select (topics : TopicSet) : TopicKind → Topic
  | .cfg => topics.cfg
  | .batch => topics.batch
  | .messages => topics.messages

theorem exists_topic (id : ClientId) (leaf : String) (short : leaf.utf8ByteSize ≤ 87) :
    ∃ made, topic id leaf = .ok made := by
  have fits : (id.text ++ "/" ++ leaf).utf8ByteSize ≤ Limits.topic := by
    have within : id.text.utf8ByteSize ≤ 40 := id.fits
    rw [String.utf8ByteSize_append, String.utf8ByteSize_append]
    exact Nat.add_le_add (Nat.add_le_add within Nat.le.refl) short
  exact ⟨⟨_, fits⟩, by rw [topic, Topic.ofText, dif_pos fits]⟩

/-- Every device has its topics. -/
theorem exists_ofClientId (id : ClientId) : ∃ topics, ofClientId id = .ok topics := by
  obtain ⟨cfg, isCfg⟩ := exists_topic id "cfg" (by decide)
  obtain ⟨batch, isBatch⟩ := exists_topic id "batch" (by decide)
  obtain ⟨messages, isMessages⟩ := exists_topic id "messages" (by decide)
  exact ⟨⟨cfg, batch, messages⟩, by rw [ofClientId, isCfg, isBatch, isMessages]; rfl⟩

theorem toList_select {id : ClientId} {topics : TopicSet} (derived : ofClientId id = .ok topics)
    (kind : TopicKind) :
    (topics.select kind).text.toList = id.text.toList ++ '/' :: kind.leaf.toList := by
  obtain ⟨cfg, batch, messages⟩ := texts_of_ofClientId derived
  cases kind with
  | cfg => rw [select, cfg, String.toList_append]; rfl
  | batch => rw [select, batch, String.toList_append]; rfl
  | messages => rw [select, messages, String.toList_append]; rfl

end TopicSet

/-- A topic of exactly two levels and without a wildcard. -/
structure Topic.IsPair (topic : Topic) : Prop where
  levels : topic.text.toList.count '/' = 1
  single : '+' ∉ topic.text.toList
  multi : '#' ∉ topic.text.toList

namespace TopicSet

variable {id other : ClientId} {topics others : TopicSet} {kind otherKind : TopicKind}

theorem isPair_select (derived : ofClientId id = .ok topics) (kind : TopicKind) :
    (topics.select kind).IsPair := by
  have plain := id.isLevel.plain
  have leaf : kind.leaf.toList.count '/' = 0 ∧ '+' ∉ kind.leaf.toList ∧ '#' ∉ kind.leaf.toList := by
    cases kind <;> decide
  constructor
  · have level : id.text.toList.count '/' = 0 :=
      List.count_eq_zero.mpr fun isIn => (plain _ isIn).1 rfl
    rw [toList_select derived, List.count_append, List.count_cons_self, level, leaf.1]
  · rw [toList_select derived, List.mem_append, List.mem_cons]
    rintro (isIn | isSlash | isIn)
    · exact (plain _ isIn).2.1 rfl
    · cases isSlash
    · exact leaf.2.1 isIn
  · rw [toList_select derived, List.mem_append, List.mem_cons]
    rintro (isIn | isSlash | isIn)
    · exact (plain _ isIn).2.2.1 rfl
    · cases isSlash
    · exact leaf.2.2 isIn

/-- The first level of a topic is the identifier of its device. -/
theorem takeWhile_select (derived : ofClientId id = .ok topics) (kind : TopicKind) :
    (topics.select kind).text.toList.takeWhile (· != '/') = id.text.toList := by
  have inside : ∀ c ∈ id.text.toList, (c != '/') = true :=
    fun c isIn => bne_iff_ne.mpr (id.isLevel.plain c isIn).1
  rw [toList_select derived, List.takeWhile_append_of_pos inside,
    List.takeWhile_cons_of_neg (by decide), List.append_nil]

/-- A topic belongs to one device, and to one purpose there. -/
theorem eq_of_select (derived : ofClientId id = .ok topics)
    (otherDerived : ofClientId other = .ok others)
    (same : (topics.select kind).text = (others.select otherKind).text) :
    id = other ∧ kind = otherKind := by
  have sameLevel : id.text.toList = other.text.toList := by
    rw [← takeWhile_select derived kind, ← takeWhile_select otherDerived otherKind, same]
  refine ⟨ClientId.ext_text (String.toList_inj.mp sameLevel), ?_⟩
  have sameTopic := congrArg String.toList same
  rw [toList_select derived, toList_select otherDerived, sameLevel, List.append_cancel_left_eq,
    List.cons.injEq] at sameTopic
  have distinct : kind.leaf.toList = otherKind.leaf.toList → kind = otherKind := by
    cases kind <;> cases otherKind <;> decide
  exact distinct sameTopic.2

end TopicSet

/-! ## Wrappers -/

namespace Wrapper

variable {σ ν : Type} {clientId : ClientId} {config : BackendConfig} {stateGet : StateGetPolicy}
  {application : CloudHandler σ ν}

/-- Making a wrapper only depends on whether the name of its sessions fits: the device has its
topics. -/
theorem init_eq {topics : TopicSet} (derived : TopicSet.ofClientId clientId = .ok topics) :
    init clientId config stateGet application =
      if fits : (config.clientIdPrefix ++ clientId.text).utf8ByteSize ≤ Limits.clientId then
        .ok ({ clientId, topics, stateGet },
          { sessionId := ⟨_, fits⟩, config, handler := Translator.handler topics.cfg application })
      else .error .clientIdTooLong := by
  simp only [init, derived, bind, Except.bind, SessionId.compose]
  by_cases fits : (config.clientIdPrefix ++ clientId.text).utf8ByteSize ≤ Limits.clientId
  · rw [dif_pos fits, dif_pos fits]
    rfl
  · rw [dif_neg fits, dif_neg fits]
    rfl

/-- A wrapper is refused for one reason only. -/
theorem init_eq_error_iff (reason : WrapError) :
    init clientId config stateGet application = .error reason ↔
      40 < (config.clientIdPrefix ++ clientId.text).utf8ByteSize ∧ reason = .clientIdTooLong := by
  obtain ⟨topics, derived⟩ := TopicSet.exists_ofClientId clientId
  rw [init_eq derived]
  split
  · next fits =>
    refine iff_of_false (fun failed => ?_) fun refused => absurd fits (Nat.not_le.mpr refused.1)
    cases failed
  · next exceeds =>
    rw [Except.error.injEq, eq_comm]
    exact (and_iff_right (Nat.not_le.mp exceeds)).symm

theorem introduces_of_init {wrapper : Wrapper} {setup : Setup σ ν}
    (made : init clientId config stateGet application = .ok (wrapper, setup)) :
    setup.Introduces (config.clientIdPrefix ++ clientId.text) := by
  obtain ⟨topics, derived⟩ := TopicSet.exists_ofClientId clientId
  rw [init_eq derived] at made
  split at made
  · cases made
    exact Setup.introduces_sessionId _
  · cases made

end Wrapper

/-- Devices stay apart: an identifier, however it comes about, is one plain level. It has its
topics, of two levels each and without wildcards, and shares one with no other device and
for no other purpose. A wrapper for it is refused exactly when the name of its sessions
would be too long, and otherwise the sessions introduce themselves under that name. -/
theorem ClientId.topics_apart :
    (∀ text id, custom text = .ok id → id.text = text ∧ IsLevel text 40) ∧
    (∀ answer id, ofIdentity answer = .ok id → IsLevel id.text 15) ∧
    (∀ id, ∃ topics, TopicSet.ofClientId id = .ok topics ∧
      ∀ kind, (topics.select kind).IsPair) ∧
    (∀ id other topics others kind otherKind,
      TopicSet.ofClientId id = .ok topics → TopicSet.ofClientId other = .ok others →
        (topics.select kind).text = (others.select otherKind).text →
          id = other ∧ kind = otherKind) ∧
    ∀ {σ ν : Type} (id : ClientId) (config : BackendConfig) (stateGet : StateGetPolicy)
      (application : CloudHandler σ ν),
      (∀ reason, Wrapper.init id config stateGet application = .error reason ↔
        40 < (config.clientIdPrefix ++ id.text).utf8ByteSize ∧ reason = .clientIdTooLong) ∧
      ∀ wrapper setup, Wrapper.init id config stateGet application = .ok (wrapper, setup) →
        setup.Introduces (config.clientIdPrefix ++ id.text) := by
  refine ⟨fun text id given => ?_, fun answer id told => ?_, fun id => ?_, ?_, ?_⟩
  · obtain rfl : id.text = text := custom_eq_ok_iff.mp given
    exact ⟨rfl, id.isLevel⟩
  · have level := id.isLevel
    exact ⟨level.nonempty, short_of_ofIdentity told, level.plain⟩
  · obtain ⟨topics, derived⟩ := TopicSet.exists_ofClientId id
    exact ⟨topics, derived, TopicSet.isPair_select derived⟩
  · intro id other topics others kind otherKind derived otherDerived same
    exact TopicSet.eq_of_select derived otherDerived same
  · intro σ ν id config stateGet application
    exact ⟨Wrapper.init_eq_error_iff, fun wrapper setup made => Wrapper.introduces_of_init made⟩

end Uplink
