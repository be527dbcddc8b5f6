import Uplink.Network.Simulated

/-!
# Connections of the simulated network

What the two ends of an open connection do to each other. The peer learns of a plain
connection only when the network moves after it was opened: what it sends or closes
before that is lost, while a reset arrives. What has arrived stays readable after the
connection has gone; the rest is lost with it. A secured stream is read record by
record, and is over for the device once it has seen the peer's farewell. A peer that
speaks TLS on a plain stream only ever sends alerts.
-/

namespace Uplink

/-- What either end of a connection does. -/
inductive ConnectionStep where
  | send (data : Bytes)
  | receive (max : Nat)
  | abort
  | peerSend (data : Bytes)
  | peerClose
  | peerAbort
deriving DecidableEq, Repr

/-- How a step of a connection ends. -/
inductive StepResult where
  | done
  | received (data : Bytes)
  | pending
  | failed (name : String)
deriving DecidableEq, Repr

/-- A connection that was opened. -/
structure Connection where
  /-- Whether the stream is secured. -/
  secure : Bool
  network : Network
  /-- Whether the peer knows of the connection. -/
  settled : Bool
  /-- Whether the peer may still send. -/
  peerOpen : Bool := true
  /-- Whether the end of the peer's stream follows what it has sent. -/
  finished : Bool := false
  /-- Whether the device has seen the end of a secured stream. -/
  ended : Bool := false
  /-- Whether the peer, which speaks TLS, has refused what it received. -/
  refused : Bool := false
  /-- Whether the connection still exists. -/
  alive : Bool := true
  /-- What is left of the record that was taken up last. -/
  record : Bytes := []
  /-- What the peer sent and the device has not read, in pieces that are read apart. -/
  unread : List Bytes := []
deriving DecidableEq, Repr

namespace Connection

/-- Size of the device's receive buffer. -/
def receiveBuffer (connection : Connection) : Nat := if connection.secure then 4096 else 1024

/-- The most bytes that one piece holds: a full receive buffer without TLS, a record
with it. -/
def pieceSize (connection : Connection) : Nat :=
  if connection.secure then 16384 else connection.receiveBuffer

/-- Bytes that a piece takes up in the receive buffer besides its own. -/
def pieceOverhead (connection : Connection) : Nat := if connection.secure then 22 else 0

/-- Cut bytes into pieces. -/
def pieces (size : Nat) : (fuel : Nat) → Bytes → List Bytes
  | _, [] => []
  | 0, data => [data]
  | fuel + 1, data => data.take size :: pieces size fuel (data.drop size)

/-- Add to what the device can read. Without TLS, pieces are filled up. -/
def push (connection : Connection) (data : Bytes) : Connection :=
  let unread :=
    if connection.secure then
      connection.unread ++ pieces connection.pieceSize data.length data
    else
      let stream := connection.unread.flatten ++ data
      pieces connection.pieceSize stream.length stream
  { connection with unread }

/-- Open a connection on which the peer does what its behaviour says. A handshake has
already made the peer know of it. -/
def start (network : Network) (secure : Bool) : Connection :=
  { secure, network, settled := secure }

/-- Let the network move: the peer learns of the connection, and greets or hangs up. -/
def settle (connection : Connection) : Connection :=
  if connection.settled then connection
  else
    let connection := { connection with settled := true }
    if connection.alive && connection.peerOpen then
      if connection.network.peer.hangsUp then
        { connection with peerOpen := false, finished := true }
      else if connection.network.peer.secure then connection
      else connection.push connection.network.peer.greeting
    else connection

/-- The pieces that have arrived in full when `room` bytes of buffer were free. -/
def arrived (overhead : Nat) : (room : Nat) → List Bytes → List Bytes
  | _, [] => []
  | room, piece :: rest =>
    let size := piece.length + overhead
    if size ≤ room then piece :: arrived overhead (room - size) rest else []

/-- Drop the connection. Of what the peer sent, only what has arrived stays readable. -/
def reset (connection : Connection) : Connection :=
  let kept := arrived connection.pieceOverhead connection.receiveBuffer connection.unread
  { connection with
    alive := false, peerOpen := false, unread := kept,
    finished := connection.finished && kept.length == connection.unread.length }

/-- A reset as either kind of stream reports it. -/
def resetName (connection : Connection) : String :=
  if connection.secure then TlsError.connectionReset.name else DialError.connectionReset.name

/-- Read from a connection on which there is nothing left to read. -/
def receiveEnd (connection : Connection) : StepResult × Connection :=
  if connection.finished then
    if connection.secure then
      (.failed TlsError.connectionClosed.name, { connection with ended := true })
    else (.received [], connection)
  else if !connection.alive then (.failed connection.resetName, connection)
  else if connection.network.timeout.isSome then
    (.failed connection.resetName, connection.reset)
  else (.pending, connection)

/-- Read at most `max` bytes of a plain stream. -/
def receivePlain (connection : Connection) (max : Nat) : StepResult × Connection :=
  match connection.unread with
  | piece :: rest =>
    (.received (piece.take max), { connection with unread := piece.drop max :: rest }.push [])
  | [] => connection.receiveEnd

/-- Read at most `max` bytes of a secured stream, all from one record. -/
def receiveSecure (connection : Connection) (max : Nat) : StepResult × Connection :=
  if max = 0 then (.received [], connection)
  else if connection.ended then (.failed TlsError.missingHandshake.name, connection)
  else match connection.record, connection.unread with
    | byte :: left, _ =>
      (.received ((byte :: left).take max), { connection with record := (byte :: left).drop max })
    | [], piece :: rest =>
      (.received (piece.take max), { connection with record := piece.drop max, unread := rest })
    | [], [] => connection.receiveEnd

/-- Read at most `max` bytes. Reading nothing from a live stream does not wait. -/
def receive (connection : Connection) (max : Nat) : StepResult × Connection :=
  if connection.secure then connection.receiveSecure max
  else if max = 0 && connection.alive then (.received [], connection)
  else connection.settle.receivePlain max

/-- Whether both ends of the stream agree on TLS. -/
def isAgreed (connection : Connection) : Bool := connection.secure == connection.network.peer.secure

/-- The alert of a peer that expected a record. -/
def refusal : Bytes := [21, 3, 3, 0, 2, 2, 50]

/-- The alert of a peer that closes its side of an unsecured stream. -/
def farewell : Bytes := [21, 3, 3, 0, 2, 1, 0]

/-- Let bytes arrive at a peer that expects records; they are none unless they begin
with the type of one. -/
def offer (connection : Connection) (data : Bytes) : Connection :=
  match data with
  | kind :: _ =>
    if connection.refused || !connection.peerOpen || (20 ≤ kind && kind ≤ 24) then connection
    else { connection with refused := true }.push refusal
  | [] => connection

/-- Send bytes: the result, what the peer's application receives, and the connection
afterwards. -/
def send (connection : Connection) (data : Bytes) : StepResult × Bytes × Connection :=
  if data.isEmpty then (.done, [], connection)
  else if connection.ended then (.failed TlsError.missingHandshake.name, [], connection)
  else if !connection.alive then (.failed connection.resetName, [], connection)
  else if connection.isAgreed then (.done, data, connection)
  else (.done, [], connection.settle.offer data)

/-- Let the peer send bytes. Without an agreement on TLS they stay with it. -/
def peerSend (connection : Connection) (data : Bytes) : Connection :=
  if connection.settled && connection.peerOpen && connection.alive && connection.isAgreed then
    connection.push data
  else connection

/-- Let the peer close its side. The end of its stream is lost when it does not know of
the connection yet. -/
def peerClose (connection : Connection) : Connection :=
  if connection.settled && connection.peerOpen then
    let connection :=
      if connection.isAgreed || connection.refused then connection else connection.push farewell
    { connection with peerOpen := false, finished := true }
  else { connection with peerOpen := false }

/-- What a step does: its result, what the peer's application received, and the
connection afterwards. -/
def act (connection : Connection) : ConnectionStep → StepResult × Bytes × Connection
  | .send data => connection.send data
  | .receive max =>
    let (result, connection) := connection.receive max
    (result, [], connection)
  | .abort => (.done, [], if connection.secure then connection else connection.reset)
  | .peerSend data => (.done, [], connection.peerSend data)
  | .peerClose => (.done, [], connection.peerClose)
  | .peerAbort => (.done, [], connection.reset)

/-- A step, after which the network moves. -/
def perform (connection : Connection) (step : ConnectionStep) :
    StepResult × Bytes × Connection :=
  let (result, toPeer, connection) := connection.act step
  (result, toPeer, connection.settle)

/-- Steps one after the other. -/
def performAll (connection : Connection) : List ConnectionStep → List (StepResult × Bytes)
  | [] => []
  | step :: rest =>
    let (result, toPeer, connection) := connection.perform step
    (result, toPeer) :: connection.performAll rest

end Connection

end Uplink
