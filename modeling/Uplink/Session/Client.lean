import Uplink.Config
import Uplink.Packet.Decode
import Uplink.Packet.Encode
import Uplink.Wire.Frame

/-!
# The session client

A `Client` is the state of one session: the bytes that were received and not yet
handed out, the moment of the last transmission, and the last packet identifier. It
never loops by itself and does no input or output; whoever drives it receives, sends
and reports back.
-/

namespace Uplink

/-- What a session announces when it opens. -/
structure SessionOptions where
  clientId : String
  /-- Longest silence of the client, in whole seconds. -/
  keepAliveSeconds : UInt16 := 60
  cleanSession : Bool := true
deriving DecidableEq, Repr

namespace SessionOptions

/-- The longest keep-alive that can be announced, in seconds. -/
def maxSeconds : Nat := 65535

/-- Set the keep-alive. Parts of a second are dropped, and a time too long to be
announced is cut. -/
def withKeepAlive (options : SessionOptions) (keepAlive : Micros) : SessionOptions :=
  { options with keepAliveSeconds := (min (keepAlive / microsPerSecond) maxSeconds).toUInt16 }

theorem toNat_keepAliveSeconds_withKeepAlive (options : SessionOptions) (keepAlive : Micros) :
    (options.withKeepAlive keepAlive).keepAliveSeconds.toNat =
      min (keepAlive / microsPerSecond) maxSeconds := by
  have bound : min (keepAlive / microsPerSecond) maxSeconds < 65536 :=
    Nat.lt_succ_of_le (Nat.min_le_right _ _)
  simp only [withKeepAlive, Nat.toUInt16_eq, UInt16.toNat_ofNat']
  exact Nat.mod_eq_of_lt bound

/-- The keep-alive that is both announced and observed. -/
def keepAlive (options : SessionOptions) : Micros :=
  options.keepAliveSeconds.toNat * microsPerSecond

/-- The packet that opens the session. -/
def connect (options : SessionOptions) : Outbound :=
  .connect ⟨options.clientId, options.keepAliveSeconds, options.cleanSession⟩

end SessionOptions

/-- The state of one session. -/
structure Client where
  options : SessionOptions
  /-- Size of the buffers for received and for sent packets. -/
  capacity : Nat
  /-- The receive buffer, as far as it is filled. -/
  buffered : Bytes := []
  /-- Length of the frame that was handed out last and not yet released. -/
  consumed : Nat := 0
  /-- When the last transmission was completed, or the session began. -/
  lastSend : Micros
  /-- The last packet identifier that was given out. -/
  packetId : UInt16 := 0
deriving DecidableEq, Repr

namespace Client

/-- Start a session. -/
def start (options : SessionOptions) (capacity : Nat) (now : Micros) : Client :=
  { options, capacity, lastSend := now }

/-- Release the frame that was handed out last. -/
def release (client : Client) : Client :=
  { client with buffered := client.buffered.drop client.consumed, consumed := 0 }

/-- Free space of the receive buffer. -/
def room (client : Client) : Nat := client.capacity - client.buffered.length

/-- Take in received bytes. -/
def absorb (client : Client) (bytes : Bytes) : Client :=
  { client with buffered := client.buffered ++ bytes }

/-- Hand out the next packet once its frame is complete. Its frame is released by the
next call, also when it could not be read. -/
def next (client : Client) : Except ProtocolError (Option Inbound) × Client :=
  let client := client.release
  match Frame.length? client.buffered client.capacity with
  | .error fault => (.error fault, client)
  | .ok none => (.ok none, client)
  | .ok (some length) =>
    ((Inbound.decode (client.buffered.take length)).map some, { client with consumed := length })

/-- The identifier after a given one; zero is left out. -/
def nextId (packetId : UInt16) : UInt16 :=
  if packetId + 1 = 0 then 1 else packetId + 1

/-- Give out a packet identifier. -/
def takeId (client : Client) : UInt16 × Client :=
  let packetId := nextId client.packetId
  (packetId, { client with packetId })

/-- The bytes of a packet, if the send buffer can hold it. -/
def encode (client : Client) (packet : Outbound) : Except ProtocolError Bytes :=
  packet.encode client.capacity

/-- Note that a transmission was completed. -/
def sentAt (client : Client) (now : Micros) : Client := { client with lastSend := now }

/-- Time left until the broker has to hear from the client; none without keep-alive. -/
def timeLeft (client : Client) (now : Micros) : Option Micros :=
  if client.options.keepAlive = 0 then none
  else some (client.options.keepAlive - (now - client.lastSend))

end Client

end Uplink
