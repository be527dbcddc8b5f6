import Uplink.Proofs.Command.Reporting
import Uplink.Proofs.Json.Transcription
import Uplink.Telemetry.Envelope

/-!
# What stands in an envelope

A reading is put into a buffer exactly when it has a text, its channel has a name and the
buffer has room, to the byte, although escapes make the length depend on the text. Then the
document parser finds the name and the text again, whatever characters the text holds, and
the command decoder finds nothing to do. `Reading.Inscribed` gathers what holds of a buffer
into which a reading was put.
-/

namespace Uplink

/-- A document without the name of a command tree contributes nothing to its paths. -/
theorem Json.contributions_of_absent {document : Json} {root : Node}
    (absent : document.select? root.key = none) (above : List NodeKind) :
    document.contributions above root.paths = [] := by
  by_cases leaf : root.children = []
  · rw [Node.paths_of_leaf leaf, contributions_map_cons, absent, Option.elim_none]
  · rw [Node.paths_of_inner leaf, contributions_map_cons, absent, Option.elim_none]

namespace Channel

/-- The names of channels are written without escapes. -/
theorem width_appId {channel : Channel} {appId : String} (named : channel.appId? = some appId) :
    Json.Quoted.extent appId.toList = appId.utf8ByteSize := by
  cases channel <;> cases named <;> decide

/-- A name belongs to one channel only. -/
theorem eq_of_appId {channel other : Channel} {appId : String}
    (named : channel.appId? = some appId) (also : other.appId? = some appId) :
    channel = other := by
  have distinct : channel.appId?.isSome → channel.appId? = other.appId? → channel = other := by
    cases channel <;> cases other <;> decide
  exact distinct (by rw [named]; rfl) (named.trans also.symm)

end Channel

namespace Reading

/-- The number of bytes of an envelope: what is always there, the name of the channel, and
the text with its escapes. -/
def size (appId data : String) : Nat :=
  43 + appId.utf8ByteSize + Json.Quoted.extent data.toList

/-- What a buffer holds after a reading was put into it. -/
structure Inscribed (reading : Reading) (buffer : Bytes) (length : Nat) (after : Bytes) : Prop where
  /-- The document says the name of the channel, the text and the kind of the message, and
  nothing else. -/
  document : ∃ appId, reading.channel.appId? = some appId ∧ length = size appId reading.data ∧
    Json.ofBytes? (after.take length) = some (.object [("appId", .string appId),
      ("data", .string reading.data), ("messageType", .string "DATA")])
  /-- Outside its texts there are braces, colons and commas only. -/
  compact : ∃ text, Utf8.decode? (after.take length) = some text ∧
    Json.outside false text.toList = ['\x7b', ':', ',', ':', ',', ':', '\x7d']
  /-- The bytes behind it are those of the buffer. -/
  behind : after.drop length = buffer.drop length
  sameLength : after.length = buffer.length
  /-- The tag does not show. -/
  tagless : ∀ tag, { reading with tag }.put buffer = .ok length after
  /-- Another reading with the same bytes is one on the same channel with the same text. -/
  unique : ∀ (other : Reading) (otherBuffer otherAfter : Bytes) (otherLength : Nat),
    other.put otherBuffer = .ok otherLength otherAfter →
      otherAfter.take otherLength = after.take length →
      other.channel = reading.channel ∧ other.data = reading.data
  /-- A decoder of commands accepts it and hands nothing to its handler. -/
  commandless : ∀ {σ : Type} (codec : Codec σ), codec.decode (after.take length) = (.ok 0, codec)

/-- The texts of an envelope. -/
def texts (appId data : String) : List (String × String) :=
  [("appId", appId), ("data", data), ("messageType", "DATA")]

theorem envelope_eq_record (appId data : String) :
    envelope appId data = Json.record (texts appId data) := rfl

/-- The written form of an envelope. -/
def written (appId data : String) : Bytes :=
  Utf8.encode (String.ofList (envelope appId data).render)

section Written

variable {appId data : String}

theorem ofBytes?_written : Json.ofBytes? (written appId data) = some (envelope appId data) := by
  rw [Json.ofBytes?, written, Utf8.decode?_encode, Option.bind_some, String.toList_ofList,
    envelope_eq_record, Json.parse?_render_record]

theorem render_envelope : (envelope appId data).render =
    '\x7b' :: (Json.renderEntry ("appId", appId) ++ ',' :: (Json.renderEntry ("data", data) ++
      ',' :: (Json.renderEntry ("messageType", "DATA") ++ ['\x7d']))) := by
  rw [envelope_eq_record, Json.record, Json.render, texts, Json.renderMembers_entry_cons,
    Json.renderMembers_entry_cons, List.map_singleton, Json.renderMembers_entry]
  simp

theorem outside_render : Json.outside false (envelope appId data).render =
    ['\x7b', ':', ',', ':', ',', ':', '\x7d'] := by
  have brace : '\x7b' ≠ '"' := by decide
  have comma : ',' ≠ '"' := by decide
  rw [render_envelope, Json.outside_cons brace, Json.outside_renderEntry, Json.outside_cons comma,
    Json.outside_renderEntry, Json.outside_cons comma, Json.outside_renderEntry]
  rfl

theorem length_written {channel : Channel} (named : channel.appId? = some appId) :
    (written appId data).length = size appId data := by
  have keys : Json.Quoted.extent "appId".toList = 5 ∧
      Json.Quoted.extent "data".toList = 4 ∧
      Json.Quoted.extent "messageType".toList = 11 ∧
      Json.Quoted.extent "DATA".toList = 4 := by decide
  have marks : '\x7b'.utf8Size = 1 ∧ '\x7d'.utf8Size = 1 ∧ ':'.utf8Size = 1 ∧
      ','.utf8Size = 1 := ⟨rfl, rfl, rfl, rfl⟩
  rw [written, Utf8.length_encode, String.utf8ByteSize_ofList, render_envelope, size]
  simp only [Json.renderEntry, String.utf8Len_append, String.utf8Len_cons, String.utf8Len_nil,
    Json.Quoted.utf8Len_encode, Channel.width_appId named, keys, marks]
  omega

/-- Different names or texts are written differently. -/
theorem written_injective {otherId otherData : String}
    (same : written appId data = written otherId otherData) :
    appId = otherId ∧ data = otherData := by
  have document := congrArg Json.ofBytes? same
  rw [ofBytes?_written, ofBytes?_written] at document
  simpa [envelope] using document

/-- No command stands in an envelope. -/
theorem decode_written {σ : Type} (codec : Codec σ) :
    codec.decode (written appId data) = (.ok 0, codec) := by
  have absent : (envelope appId data).select? "get" = none ∧
      (envelope appId data).select? "set" = none := ⟨rfl, rfl⟩
  have nothing : (envelope appId data).contributions [] Vocabulary.paths = [] := by
    rw [Vocabulary.paths, Json.contributions_append, Json.contributions_of_absent absent.1,
      Json.contributions_of_absent absent.2]
    rfl
  rw [Codec.decode_eq ofBytes?_written, nothing]
  rfl

end Written

/-! ## Putting a reading into a buffer -/

variable {reading : Reading} {buffer after : Bytes} {length : Nat}

theorem encode_eq_ok_iff {document : Bytes} :
    reading.encode = .ok document ↔ reading.data ≠ "" ∧
      ∃ appId, reading.channel.appId? = some appId ∧ document = written appId reading.data := by
  rw [encode]
  by_cases empty : reading.data = ""
  · simp [empty]
  · cases named : reading.channel.appId? with
    | none => simp
    | some appId =>
      simp only [String.isEmpty_iff, empty, written, if_false, Except.ok.injEq, Option.some.injEq,
        ne_eq, not_false_eq_true, true_and, exists_eq_left']
      exact eq_comm

/-- What it takes to put a reading into a buffer, and what comes of it. -/
theorem put_eq_ok_iff : reading.put buffer = .ok length after ↔ reading.data ≠ "" ∧
    ∃ appId, reading.channel.appId? = some appId ∧ length = size appId reading.data ∧
      length ≤ buffer.length ∧ after = written appId reading.data ++ buffer.drop length := by
  have opened : reading.put buffer = .ok length after ↔
      ∃ document, reading.encode = .ok document ∧ document.length = length ∧
        length ≤ buffer.length ∧ after = document ++ buffer.drop length := by
    rw [put]
    cases reading.encode with
    | error fault => simp
    | ok document => by_cases room : document.length ≤ buffer.length <;> grind
  rw [opened]
  constructor
  · rintro ⟨document, encodes, rfl, room, rfl⟩
    obtain ⟨nonempty, appId, named, rfl⟩ := encode_eq_ok_iff.mp encodes
    exact ⟨nonempty, appId, named, length_written named, room, rfl⟩
  · rintro ⟨nonempty, appId, named, rfl, room, rfl⟩
    exact ⟨_, encode_eq_ok_iff.mpr ⟨nonempty, appId, named, rfl⟩, length_written named, room, rfl⟩

/-- The envelope stands at the start of the buffer. -/
theorem take_of_put (puts : reading.put buffer = .ok length after) :
    ∃ appId, reading.channel.appId? = some appId ∧
      after.take length = written appId reading.data := by
  obtain ⟨-, appId, named, rfl, -, rfl⟩ := put_eq_ok_iff.mp puts
  exact ⟨appId, named, List.take_left' (length_written named)⟩

theorem after_of_error {fault : CodecError} (failed : reading.put buffer = .error fault after) :
    after = buffer := by
  rw [put] at failed
  split at failed
  · cases failed
    rfl
  · split at failed
    · cases failed
    · cases failed
      rfl

theorem inscribed_of_put (puts : reading.put buffer = .ok length after) :
    reading.Inscribed buffer length after := by
  obtain ⟨-, appId, named, isSize, room, isAfter⟩ := put_eq_ok_iff.mp puts
  have isLength : (written appId reading.data).length = length :=
    (length_written named).trans isSize.symm
  have taken : after.take length = written appId reading.data := by
    rw [isAfter, List.take_left' isLength]
  refine ⟨⟨appId, named, isSize, ?_⟩,
    ⟨String.ofList (envelope appId reading.data).render, ?_, ?_⟩, ?_, ?_, ?_, ?_, ?_⟩
  · rw [taken]
    exact ofBytes?_written
  · rw [taken]
    exact Utf8.decode?_encode _
  · rw [String.toList_ofList]
    exact outside_render
  · rw [isAfter, List.drop_left' isLength]
  · rw [isAfter, List.length_append, isLength, List.length_drop]
    omega
  · exact fun tag => puts
  · intro other otherBuffer otherAfter otherLength otherPuts same
    obtain ⟨otherId, otherNamed, otherTaken⟩ := take_of_put otherPuts
    obtain ⟨rfl, sameData⟩ := written_injective (otherTaken.symm.trans (same.trans taken))
    exact ⟨Channel.eq_of_appId otherNamed named, sameData⟩
  · intro σ codec
    rw [taken]
    exact decode_written codec

/-- A reading is put into a buffer exactly when it has a text, its channel has a name and the
buffer has as many bytes as the envelope. Then the buffer begins with the envelope. A fault
leaves the buffer as it was. -/
theorem put_inscribes (reading : Reading) (buffer : Bytes) :
    ((∃ length after, reading.put buffer = .ok length after) ↔ reading.data ≠ "" ∧
      ∃ appId, reading.channel.appId? = some appId ∧
        size appId reading.data ≤ buffer.length) ∧
    (∀ length after, reading.put buffer = .ok length after →
      reading.Inscribed buffer length after) ∧
    ∀ fault after, reading.put buffer = .error fault after → after = buffer := by
  refine ⟨?_, fun length after => inscribed_of_put, fun fault after => after_of_error⟩
  simp only [put_eq_ok_iff]
  constructor
  · rintro ⟨length, after, nonempty, appId, named, rfl, room, rfl⟩
    exact ⟨nonempty, appId, named, room⟩
  · rintro ⟨nonempty, appId, named, room⟩
    exact ⟨_, _, nonempty, appId, named, rfl, room, rfl⟩

/-- A quote takes up two bytes and a bell six; one byte less is not enough. -/
example : size "DEVICE" "a\"\x07é" = 60 ∧
    (Put.into (Reading.put ⟨.deviceInfo, "a\"\x07é", .first⟩) (.replicate 59 0)).isOk = false ∧
    (Put.into (Reading.put ⟨.deviceInfo, "a\"\x07é", .first⟩) (.replicate 60 0)).isOk = true := by
  decide +kernel

end Reading

end Uplink
