import Uplink.Packet.Decode
import Uplink.Proofs.Wire.Fields

/-!
# What is read of frames

A frame is read as one packet or not at all. `Inbound.readable` is what there is to read in
the frames of a session: it stops at the first frame that cannot be read and at the first
packet that refuses the session. A message that asks for an acknowledgement is only read
with the identifier to acknowledge.
-/

namespace Uplink

/-- A message that asks for an acknowledgement comes with an identifier. -/
theorem Publish.identified_of_fields {flags : UInt8} {message : Publish} {reader rest : Reader}
    (isRead : fields flags reader = .ok message rest) (asks : message.qos ≠ .atMostOnce) :
    message.packetId ≠ none := by
  unfold fields at isRead
  cases isCode : QoS.ofCode (flags >>> 1 &&& 3) with
  | error fault =>
    rw [isCode] at isRead
    cases isRead
  | ok qos =>
    rw [isCode] at isRead
    obtain ⟨_, _, isQos, isRead⟩ := Fallible.bind_eq_ok_iff.mp isRead
    cases isQos
    obtain ⟨topic, afterTopic, -, isRead⟩ := Fallible.bind_eq_ok_iff.mp isRead
    dsimp only at isRead
    split at isRead
    · next unasked =>
      obtain ⟨_, _, -, isRead⟩ := Fallible.bind_eq_ok_iff.mp isRead
      obtain ⟨payload, afterPayload, -, isRead⟩ := Fallible.bind_eq_ok_iff.mp isRead
      cases isRead
      exact absurd unasked asks
    · obtain ⟨packetId, afterId, isId, isRead⟩ := Fallible.bind_eq_ok_iff.mp isRead
      obtain ⟨payload, afterPayload, -, isRead⟩ := Fallible.bind_eq_ok_iff.mp isRead
      cases isRead
      obtain ⟨number, afterNumber, -, isNumber⟩ := Fallible.bind_eq_ok_iff.mp isId
      cases isNumber
      exact nofun

namespace Inbound

/-- Of the packets that can be read, those that ask for an acknowledgement say for what. -/
theorem identified_of_decode {frame : Bytes} {message : Publish}
    (reads : decode frame = .ok (publish message)) (asks : message.qos ≠ .atMostOnce) :
    message.packetId ≠ none := by
  cases frame with
  | nil => cases reads
  | cons first rest =>
    simp only [decode] at reads
    split at reads
    · next kind isKind =>
      cases kind with
      | publish =>
        simp only [decodeAs, Frame.read] at reads
        split at reads
        · cases reads
        · split at reads
          · next isRead =>
            cases reads
            exact Publish.identified_of_fields isRead asks
          · cases reads
      | connAck | acknowledge | subAck =>
        simp only [decodeAs] at reads
        generalize Frame.read _ _ = result at reads
        cases result <;> cases reads
      | pingResp => cases reads
    · cases reads

/-- Whether a packet refuses the session. -/
def refuses : Inbound → Bool
  | connAck answer => answer.returnCode != 0
  | publish _ | acknowledge _ _ | subAck _ | pingResp => false

/-- The packets that are read of frames, up to the first that cannot be read or that
refuses the session. -/
def readable : List Bytes → List Inbound
  | [] => []
  | frame :: frames =>
    match decode frame with
    | .ok packet => if packet.refuses then [packet] else packet :: readable frames
    | .error _ => []

theorem readable_cons_of_error {frame : Bytes} {fault : ProtocolError}
    (reads : decode frame = .error fault) (frames : List Bytes) :
    readable (frame :: frames) = [] := by
  simp only [readable, reads]

theorem readable_cons_of_refuses {frame : Bytes} {packet : Inbound}
    (reads : decode frame = .ok packet) (refuses : packet.refuses = true) (frames : List Bytes) :
    readable (frame :: frames) = [packet] := by
  simp only [readable, reads, refuses, if_true]

theorem readable_cons_of_welcome {frame : Bytes} {packet : Inbound}
    (reads : decode frame = .ok packet) (welcome : packet.refuses = false) (frames : List Bytes) :
    readable (frame :: frames) = packet :: readable frames := by
  simp only [readable, reads, welcome, Bool.false_eq_true, if_false]

theorem readable_append {frames : List Bytes} {packets : List Inbound}
    (read : frames.map decode = packets.map .ok)
    (welcome : ∀ packet ∈ packets, packet.refuses = false) (more : List Bytes) :
    readable (frames ++ more) = packets ++ readable more := by
  induction frames generalizing packets with
  | nil =>
    rw [List.map_nil, eq_comm, List.map_eq_nil_iff] at read
    rw [read]
    rfl
  | cons frame frames ih =>
    cases packets with
    | nil => cases read
    | cons packet packets =>
      obtain ⟨reads, restReads⟩ := List.cons.inj read
      rw [List.cons_append, readable_cons_of_welcome reads (welcome packet List.mem_cons_self),
        ih restReads fun other isOther => welcome other (List.mem_cons_of_mem _ isOther)]
      rfl

/-- What is read is read of one of the frames. -/
theorem decode_of_mem_readable {frames : List Bytes} {packet : Inbound}
    (isRead : packet ∈ readable frames) : ∃ frame ∈ frames, decode frame = .ok packet := by
  induction frames with
  | nil => cases isRead
  | cons frame frames ih =>
    simp only [readable] at isRead
    split at isRead
    · next first reads =>
      split at isRead
      · rw [List.mem_singleton.mp isRead]
        exact ⟨frame, List.mem_cons_self, reads⟩
      · rcases List.mem_cons.mp isRead with rfl | later
        · exact ⟨frame, List.mem_cons_self, reads⟩
        · obtain ⟨other, isOther, reads⟩ := ih later
          exact ⟨other, List.mem_cons_of_mem _ isOther, reads⟩
    · cases isRead

end Inbound

end Uplink
