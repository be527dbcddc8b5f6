import Uplink.Packet.Decode
import Uplink.Wire.Frame

/-!
# The frames of a stream

`Frame.parse` cuts a whole stream into frames. It is the reference for receivers that
see the stream in pieces: bytes behind a verdict of `Frame.length?` never change it,
unless the verdict was that more bytes are needed. What is parsed of a prefix of a
stream therefore stays parsed, whatever follows.
-/

namespace Uplink

namespace Varint

/-- Bytes behind a written value do not change how it is read. -/
theorem readGroups_append {groups : Nat} {bytes : Bytes}
    (decided : readGroups groups bytes ≠ .ok none) (more : Bytes) :
    readGroups groups (bytes ++ more) = readGroups groups bytes := by
  induction groups generalizing bytes with
  | zero => rfl
  | succ groups ih =>
    cases bytes with
    | nil => exact absurd rfl decided
    | cons byte rest =>
      simp only [List.cons_append, readGroups] at decided ⊢
      split
      · rfl
      · next continued =>
        have restDecided : readGroups groups rest ≠ .ok none := by
          intro undecided
          simp [continued, undecided] at decided
        rw [ih restDecided]

/-- A value that was read took at least one byte. -/
theorem size_pos_of_readGroups {groups : Nat} {bytes : Bytes} {value size : Nat}
    (isRead : readGroups groups bytes = .ok (some (value, size))) : 0 < size := by
  induction groups generalizing bytes value size with
  | zero => cases isRead
  | succ groups ih =>
    cases bytes with
    | nil => cases isRead
    | cons byte rest =>
      simp only [readGroups] at isRead
      split at isRead
      · cases isRead
        exact Nat.one_pos
      · split at isRead
        · cases isRead
          exact Nat.succ_pos _
        · next unread => exact absurd isRead (unread value size)

end Varint

namespace Frame

/-- The verdict on the first frame is final once it is not "not yet". -/
theorem length?_append {buffer : Bytes} {capacity : Nat}
    (decided : length? buffer capacity ≠ .ok none) (more : Bytes) :
    length? (buffer ++ more) capacity = length? buffer capacity := by
  cases buffer with
  | nil => exact absurd rfl decided
  | cons first rest =>
    simp only [length?, List.cons_append] at decided ⊢
    have restDecided : Varint.read rest ≠ .ok none := by
      intro undecided
      simp [undecided] at decided
    rw [Varint.read, Varint.readGroups_append restDecided, ← Varint.read]
    match verdict : Varint.read rest with
    | .error fault => rfl
    | .ok none => exact absurd verdict restDecided
    | .ok (some (remaining, size)) =>
      rw [verdict] at decided
      simp only [List.length_cons, List.length_append] at decided ⊢
      split
      · rfl
      · next fits =>
        have complete : 1 + size + remaining ≤ rest.length + 1 := by
          refine Decidable.byContradiction fun incomplete => decided ?_
          rw [if_neg fits, if_neg incomplete]
        rw [if_pos complete, if_pos (by omega)]

/-- A complete frame has a header, and does not reach beyond the buffer. -/
theorem length?_bounds {buffer : Bytes} {capacity length : Nat}
    (complete : length? buffer capacity = .ok (some length)) :
    2 ≤ length ∧ length ≤ buffer.length := by
  cases buffer with
  | nil => cases complete
  | cons first rest =>
    simp only [length?] at complete
    match verdict : Varint.read rest with
    | .error fault => simp [verdict] at complete
    | .ok none => simp [verdict] at complete
    | .ok (some (remaining, size)) =>
      have sizePos := Varint.size_pos_of_readGroups verdict
      simp only [verdict] at complete
      split at complete
      · cases complete
      · split at complete
        · next within =>
          cases complete
          exact ⟨by omega, within⟩
        · cases complete

/-- What a stream holds: its complete frames, and the fault of framing behind them if
one is there. -/
structure Parsed where
  frames : List Bytes
  fault : Option ProtocolError
deriving DecidableEq, Repr

/-- Cut a stream into frames of at most `capacity` bytes, up to the first fault of
framing or the first frame that is not complete. -/
def parse (capacity : Nat) (stream : Bytes) : Parsed :=
  match _ : length? stream capacity with
  | .error fault => ⟨[], some fault⟩
  | .ok none => ⟨[], none⟩
  | .ok (some length) =>
    let later := parse capacity (stream.drop length)
    { later with frames := stream.take length :: later.frames }
termination_by stream.length
decreasing_by
  have bounds := length?_bounds ‹length? stream capacity = .ok (some length)›
  simp only [List.length_drop]
  omega

section

variable {capacity : Nat} {stream : Bytes}

theorem parse_of_fault {fault : ProtocolError} (verdict : length? stream capacity = .error fault) :
    parse capacity stream = ⟨[], some fault⟩ := by
  rw [parse]
  split <;> simp_all

theorem parse_of_incomplete (verdict : length? stream capacity = .ok none) :
    parse capacity stream = ⟨[], none⟩ := by
  rw [parse]
  split <;> simp_all

theorem parse_of_complete {length : Nat}
    (verdict : length? stream capacity = .ok (some length)) :
    parse capacity stream =
      { parse capacity (stream.drop length) with
        frames := stream.take length :: (parse capacity (stream.drop length)).frames } := by
  rw [parse]
  split <;> simp_all

/-- The first frame of a stream is cut off in the same way when more bytes follow. -/
theorem parse_append_of_complete {length : Nat}
    (verdict : length? stream capacity = .ok (some length)) (more : Bytes) :
    parse capacity (stream ++ more) =
      { parse capacity (stream.drop length ++ more) with
        frames := stream.take length :: (parse capacity (stream.drop length ++ more)).frames } := by
  have within := (length?_bounds verdict).2
  have extended : length? (stream ++ more) capacity = .ok (some length) := by
    rw [length?_append (by simp [verdict]), verdict]
  rw [parse_of_complete extended, List.drop_append_of_le_length within,
    List.take_append_of_le_length within]

/-- A fault of framing stays when more bytes follow. -/
theorem parse_append_of_fault {fault : ProtocolError}
    (verdict : length? stream capacity = .error fault) (more : Bytes) :
    parse capacity (stream ++ more) = ⟨[], some fault⟩ := by
  apply parse_of_fault
  rw [length?_append (by simp [verdict]), verdict]

/-- A stream begins with some frames and goes on with a rest, whatever follows. -/
def Cut (capacity : Nat) (stream : Bytes) (frames : List Bytes) (rest : Bytes) : Prop :=
  ∀ more, parse capacity (stream ++ more) =
    { parse capacity (rest ++ more) with frames := frames ++ (parse capacity (rest ++ more)).frames }

theorem Cut.refl (capacity : Nat) (stream : Bytes) : Cut capacity stream [] stream :=
  fun _ => rfl

section

variable {frames : List Bytes} {rest : Bytes}

theorem Cut.append (cut : Cut capacity stream frames rest) (bytes : Bytes) :
    Cut capacity (stream ++ bytes) frames (rest ++ bytes) := by
  intro more
  rw [List.append_assoc, List.append_assoc]
  exact cut (bytes ++ more)

/-- The next complete frame is cut off the rest. -/
theorem Cut.take (cut : Cut capacity stream frames rest) {length : Nat}
    (verdict : length? rest capacity = .ok (some length)) :
    Cut capacity stream (frames ++ [rest.take length]) (rest.drop length) := by
  intro more
  rw [cut more, parse_append_of_complete verdict, List.append_assoc]
  rfl

theorem Cut.parse_eq (cut : Cut capacity stream frames rest) :
    parse capacity stream =
      { parse capacity rest with frames := frames ++ (parse capacity rest).frames } := by
  simpa using cut []

end

end

namespace Parsed

/-- What a reader of the frames is told when it asks for the next one after a number of
answers: how the frame reads, or the fault of framing, from then on again and again. -/
def answer? (parsed : Parsed) (earlier : Nat) : Option (Except ProtocolError Inbound) :=
  match parsed.frames[earlier]? with
  | some frame => some (Inbound.decode frame)
  | none => parsed.fault.map .error

/-- Among the frames, every frame is answered by its reading. -/
theorem answer?_of_lt {parsed : Parsed} {earlier : Nat} (isFrame : earlier < parsed.frames.length) :
    parsed.answer? earlier = some (Inbound.decode parsed.frames[earlier]) := by
  simp [answer?, isFrame]

/-- Behind the frames there is only the fault. -/
theorem answer?_of_le {parsed : Parsed} {earlier : Nat} (behind : parsed.frames.length ≤ earlier) :
    parsed.answer? earlier = parsed.fault.map .error := by
  simp [answer?, behind]

end Parsed

end Frame

end Uplink
