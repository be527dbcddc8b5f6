import Uplink.Proofs.Wire.Header

/-!
# Packets come in complete frames

`Inbound.decode` never sees how long its input was meant to be. Every packet with a body is
read through `Frame.read`, and so it is only read of a complete frame, and the same packet
is read of that frame whatever follows it. The answer to a ping has no body: it is
recognised by its type alone, and no frame is asked for.
-/

namespace Uplink

theorem Except.map_eq_ok_iff {ε α β : Type} {result : Except ε α} {image : α → β} {value : β} :
    result.map image = .ok value ↔ ∃ source, result = .ok source ∧ image source = value := by
  cases result <;> simp [Except.map]

theorem Except.map_eq_error_iff {ε α β : Type} {result : Except ε α} {image : α → β} {fault : ε} :
    result.map image = .error fault ↔ result = .error fault := by
  cases result <;> simp [Except.map]

namespace Inbound

/-- The control type that announces a kind of packet. -/
def Kind.controlType : Kind → Nat
  | connAck => 2
  | publish => 3
  | acknowledge .pubAck => 4
  | acknowledge .pubRec => 5
  | acknowledge .pubRel => 6
  | acknowledge .pubComp => 7
  | subAck => 9
  | pingResp => 13

theorem Kind.ofCode?_eq_some_iff {code : UInt8} {kind : Kind} :
    ofCode? code = some kind ↔ code.toNat = kind.controlType := by
  constructor
  · intro isKind
    simp only [ofCode?] at isKind
    split at isKind <;> cases isKind <;> assumption
  · intro isCode
    rw [ofCode?, isCode]
    match kind with
    | connAck | publish | subAck | pingResp => rfl
    | acknowledge .pubAck | acknowledge .pubRec | acknowledge .pubRel | acknowledge .pubComp => rfl

variable {bytes : Bytes} {packet : Inbound} {kind : Kind}

/-- The first byte says as which kind of packet some bytes are read. -/
theorem decode_eq_ok_iff :
    decode bytes = .ok packet ↔
      ∃ first rest kind, bytes = first :: rest ∧ first.toNat / 16 = Kind.controlType kind ∧
        decodeAs kind bytes = .ok packet := by
  cases bytes with
  | nil =>
    refine iff_of_false (fun reads => ?_) ?_
    · cases reads
    · rintro ⟨_, _, _, ⟨⟩, _⟩
  | cons first rest =>
    have code : (first >>> 4).toNat = first.toNat / 16 := by
      rw [UInt8.toNat_shiftRight, Nat.shiftRight_eq_div_pow]
      rfl
    simp only [decode]
    constructor
    · intro reads
      split at reads
      · next kind isKind =>
        exact ⟨first, rest, kind, rfl, code ▸ Kind.ofCode?_eq_some_iff.mp isKind, reads⟩
      · cases reads
    · rintro ⟨_, _, kind, ⟨⟩, isType, reads⟩
      rw [Kind.ofCode?_eq_some_iff.mpr (code.trans isType)]
      exact reads

/-- An answer to a ping is read as such, whatever the bytes, and nothing else is. -/
theorem decodeAs_eq_pingResp_iff : decodeAs kind bytes = .ok pingResp ↔ kind = .pingResp := by
  cases kind <;> simp [decodeAs, Except.map_eq_ok_iff]

/-- A packet of a frame is a packet of its complete part. -/
theorem map_read_complete {α : Type} {fields : UInt8 → Read α} {build : α → Inbound}
    (reads : (Frame.read bytes fields).map build = .ok packet) :
    ∃ (whole : Frame.Whole) (rest : Bytes), bytes = whole.bytes ++ rest ∧
      ∀ more, (Frame.read (whole.bytes ++ more) fields).map build = .ok packet := by
  obtain ⟨source, isRead, built⟩ := Except.map_eq_ok_iff.mp reads
  obtain ⟨whole, rest, left, isWhole, isSource⟩ := Frame.read_eq_ok_iff.mp isRead
  refine ⟨whole, rest, isWhole, fun more => Except.map_eq_ok_iff.mpr ⟨source, ?_, built⟩⟩
  exact Frame.read_eq_ok_iff.mpr ⟨whole, more, left, rfl, isSource⟩

/-- Read as any kind but an answer to a ping, a packet is one of a complete frame. -/
theorem decodeAs_complete (framed : kind ≠ .pingResp) (reads : decodeAs kind bytes = .ok packet) :
    ∃ (whole : Frame.Whole) (rest : Bytes), bytes = whole.bytes ++ rest ∧
      ∀ more, decodeAs kind (whole.bytes ++ more) = .ok packet := by
  cases kind with
  | connAck | publish | acknowledge | subAck => exact map_read_complete reads
  | pingResp => exact absurd rfl framed

/-- Every packet but an answer to a ping is only read of bytes that begin with a complete
frame: framing finds it within every capacity that suffices, and the packet depends on this
frame alone. An answer to a ping is read of all bytes that begin with its type. -/
theorem decode_frames (bytes : Bytes) :
    (∀ packet, packet ≠ pingResp → decode bytes = .ok packet →
      ∃ (whole : Frame.Whole) (rest : Bytes), bytes = whole.bytes ++ rest ∧
        (∀ capacity, whole.bytes.length ≤ capacity →
          Frame.length? bytes capacity = .ok (some whole.bytes.length)) ∧
        ∀ more, decode (whole.bytes ++ more) = .ok packet) ∧
    (decode bytes = .ok pingResp ↔
      ∃ first rest, bytes = first :: rest ∧ first.toNat / 16 = 13) := by
  constructor
  · intro packet hasBody reads
    obtain ⟨first, tail, kind, isBytes, isType, readsAs⟩ := decode_eq_ok_iff.mp reads
    have framed : kind ≠ .pingResp := by
      rintro rfl
      exact hasBody (Except.ok.inj readsAs).symm
    obtain ⟨whole, rest, isWhole, alone⟩ := decodeAs_complete framed readsAs
    refine ⟨whole, rest, isWhole, fun capacity large => ?_, fun more => ?_⟩
    · rw [isWhole, Frame.length?_whole, if_pos large]
    · have sameFirst : whole.first = first := by
        rw [isBytes] at isWhole
        exact (List.cons.inj isWhole).1.symm
      exact decode_eq_ok_iff.mpr ⟨whole.first, _, kind, rfl, sameFirst ▸ isType, alone more⟩
  · rw [decode_eq_ok_iff]
    constructor
    · rintro ⟨first, rest, kind, isBytes, isType, reads⟩
      rw [decodeAs_eq_pingResp_iff.mp reads] at isType
      exact ⟨first, rest, isBytes, isType⟩
    · rintro ⟨first, rest, isBytes, isType⟩
      exact ⟨first, rest, .pingResp, isBytes, isType, rfl⟩

/-- A refused subscription with a byte behind it is read of its frame of five bytes. -/
theorem decode_frames_refusal :
    subAck ⟨9, [0x80]⟩ ≠ pingResp ∧
    decode [0x90, 0x03, 0x00, 0x09, 0x80, 0xAA] = .ok (subAck ⟨9, [0x80]⟩) ∧
    ∃ (whole : Frame.Whole) (rest : Bytes),
      [0x90, 0x03, 0x00, 0x09, 0x80, 0xAA] = whole.bytes ++ rest ∧
      (∀ capacity, whole.bytes.length ≤ capacity →
        Frame.length? [0x90, 0x03, 0x00, 0x09, 0x80, 0xAA] capacity =
          .ok (some whole.bytes.length)) ∧
      ∀ more, decode (whole.bytes ++ more) = .ok (subAck ⟨9, [0x80]⟩) :=
  have reads : decode [0x90, 0x03, 0x00, 0x09, 0x80, 0xAA] = .ok (subAck ⟨9, [0x80]⟩) := by rfl
  ⟨nofun, reads, (decode_frames _).1 _ nofun reads⟩

/-- The type byte of an answer to a ping is read as a packet, although it is no complete
frame: its length is missing, within every capacity. -/
theorem pingResp_unframed :
    decode [0xD0] = .ok pingResp ∧
    (∀ capacity, Frame.length? [0xD0] capacity = .ok none) ∧
    ¬∃ (whole : Frame.Whole) (rest : Bytes), [0xD0] = whole.bytes ++ rest := by
  refine ⟨rfl, fun _ => rfl, ?_⟩
  rintro ⟨whole, rest, isWhole⟩
  have length := congrArg List.length isWhole
  have positive := whole.spells.length_pos
  simp only [List.length_append, Frame.Whole.length_bytes, List.length_singleton] at length
  omega

end Inbound

end Uplink
