import Uplink.Decimal.Tenths
import Uplink.Json.Printer
import Uplink.Telemetry.Channel
import Uplink.Telemetry.CodecError
import Uplink.Telemetry.Tag
import Uplink.Text.Utf8

/-!
# Telemetry envelopes

A reading is sent as a document with the name of its channel, its text and the kind
of the message. `Reading.put` puts it at the start of a buffer or leaves the buffer
alone.
-/

namespace Uplink

/-- An operation that puts a document at the start of a buffer: the number of bytes
written. The buffer is left as it stands when a fault arises. -/
abbrev Put := EStateM CodecError Bytes Nat

/-- Put a document into a buffer: the buffer afterwards and the number of bytes written. -/
def Put.into (put : Put) (buffer : Bytes) : Except CodecError (Bytes × Nat) :=
  match put buffer with
  | .ok length after => .ok (after, length)
  | .error fault _ => .error fault

/-- One outbound reading, already rendered as text. -/
structure Reading where
  channel : Channel
  data : String
  tag : Tag := Tag.first

namespace Reading

/-- The document of a reading on a channel with a given name. -/
def envelope (appId data : String) : Json :=
  .object [("appId", .string appId), ("data", .string data), ("messageType", .string "DATA")]

/-- The bytes of a reading. It needs some text and a channel that carries telemetry. -/
def encode (reading : Reading) : Except CodecError Bytes :=
  if reading.data.isEmpty then .error .invalidArgument
  else match reading.channel.appId? with
    | none => .error .invalidArgument
    | some appId => .ok (Utf8.encode (String.ofList (envelope appId reading.data).render))

/-- Put a reading at the start of a buffer that has room for it. -/
def put (reading : Reading) : Put := fun buffer =>
  match reading.encode with
  | .error fault => .error fault buffer
  | .ok document =>
    if document.length ≤ buffer.length then
      .ok document.length (document ++ buffer.drop document.length)
    else .error .outOfMemory buffer

/-- Encode a reading at the start of a buffer. -/
def encodeInto (reading : Reading) (buffer : Bytes) : Except CodecError (Bytes × Nat) :=
  Put.into reading.put buffer

end Reading

/-- One sample of an environmental sensor. -/
structure EnvSample where
  sensor : EnvSensor
  value : Float

namespace EnvSample

/-- The longest text of a sample, in bytes. -/
def maxText : Nat := 16

/-- The reading of a sample, its value with one digit after the point. -/
def reading (sample : EnvSample) : Except CodecError Reading :=
  match sample.sensor.channel? with
  | none => .error .unsupportedSensor
  | some channel =>
    let data := Tenths.render sample.value
    if data.utf8ByteSize ≤ maxText then .ok { channel, data } else .error .outOfMemory

/-- Put a sample at the start of a buffer that has room for it. -/
def put (sample : EnvSample) : Put := fun buffer =>
  match sample.reading with
  | .error fault => .error fault buffer
  | .ok reading => reading.put buffer

/-- Encode a sample at the start of a buffer. -/
def encodeInto (sample : EnvSample) (buffer : Bytes) : Except CodecError (Bytes × Nat) :=
  Put.into sample.put buffer

end EnvSample

end Uplink
