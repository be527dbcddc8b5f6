import Uplink.Network.HostName
import Uplink.Transport.Connector

/-!
# A simulated network

One device and one peer, a table of names, and the ports on which the peer listens.
An address that nobody answers for leaves a connection waiting; with a timeout, the wait
resets it. The peer may speak TLS, may greet whoever connects, and may close its
sending side as soon as it learns of a connection.
-/

namespace Uplink

/-- The addresses of a name. -/
structure HostEntry where
  name : String
  ipv4 : List String := []
  ipv6 : List String := []
deriving DecidableEq, Repr

/-- How the peer behaves towards a new connection. -/
structure Peer where
  /-- Whether it speaks TLS. -/
  secure : Bool := false
  /-- What it sends first, unless it hangs up. -/
  greeting : Bytes := []
  /-- Whether it closes its sending side before it has sent anything. -/
  hangsUp : Bool := false
deriving DecidableEq, Repr

/-- A network with one peer. -/
structure Network where
  hosts : List HostEntry := []
  listening : List UInt16 := []
  peer : Peer := {}
  /-- How long a connection may wait in silence. -/
  timeout : Option Micros := none
deriving DecidableEq, Repr

namespace Network

/-- The peer's IPv4 address. -/
def peerOctets : List Nat := [10, 0, 0, 1]

/-- The device's own IPv6 address. -/
def deviceGroups : List Nat := [0xfd00, 0, 0, 0, 0, 0, 0, 2]

/-- Whether packets to an address reach the peer and its answers come back. Over IPv4
the peer only takes packets to itself. Over IPv6 it takes all that reach it and answers
for the address that was dialled; such an answer is no use from a group of hosts, and
none comes to the device from itself. -/
def isAnswered : IpAddress → Bool
  | .v4 octets => octets == peerOctets
  | .v6 groups => groups.headD 0 / 256 != 0xff && groups != deviceGroups

/-- The first address of a name. An address is a name of itself. -/
def resolve (network : Network) (name : String) (family : AddressFamily) : Option IpAddress :=
  match IpAddress.parse? family name with
  | some address => some address
  | none => do
    let asked ← HostName.query? name
    let entry ← network.hosts.find? (·.name == asked)
    let first ← match family with
      | .ipv4 => entry.ipv4.head?
      | .ipv6 => entry.ipv6.head?
    IpAddress.parse? family first

/-- Waiting without end, cut short by the timeout. -/
def wait {ε : Type} (network : Network) (reset : ε) : Attempt ε :=
  if network.timeout.isSome then .failed reset else .pending

/-- Open a connection. A timeout of zero has passed before anything is sent. -/
def dial (network : Network) (address : IpAddress) (port : UInt16) : Attempt DialError :=
  if port = 0 || address.isUnspecified then .failed .noRoute
  else if network.timeout = some 0 then .failed .connectionReset
  else if isAnswered address then
    if network.listening.contains port then .succeeded else .failed .connectionReset
  else network.wait .connectionReset

/-- Size of the device's buffer for a record that it sends. -/
def sentRecord : Nat := 4096

/-- Size of the device's buffer for a record that it receives. -/
def receivedRecord : Nat := 16640

/-- What the first record of a handshake holds besides the server name. -/
def helloSize : Nat := 169

/-- What an alert that refuses a handshake says. -/
def alert : Bytes → TlsError
  | level :: description :: _ =>
    match AlertLevel.ofCode? level, AlertDescription.ofCode? description with
    | some level, some description => .handshakeAborted level description
    | _, _ => .decodeError
  | _ => .insufficientBytes

/-- What is wrong with a message that is not the answer a handshake waits for: it may
be one that only servers, or no one yet, can handle. -/
def message : Bytes → TlsError
  | kind :: _ :: _ :: _ :: _ =>
    if kind = 1 || kind = 5 || kind = 24 || kind = 254 then .unimplemented else .invalidHandshake
  | _ => .invalidHandshake

/-- What a handshake makes of what a peer without TLS sends first. -/
def firstRecord (network : Network) : Attempt TlsError :=
  match network.peer.greeting with
  | kind :: _ :: _ :: high :: low :: body =>
    let length := high.toNat * 256 + low.toNat
    if kind < 20 || 23 < kind then .failed .invalidRecord
    else if receivedRecord < length then .failed .insufficientSpace
    else if body.length < length then network.wait .connectionReset
    else if kind = 21 then .failed (alert (body.take length))
    else if kind = 22 then .failed (message (body.take length))
    else .failed .invalidRecord
  | _ => network.wait .connectionReset

/-- What a TLS peer makes of a server name. An address is as good as no name. -/
def judgeName (serverName : String) : Attempt TlsError :=
  if serverName.isEmpty then .failed (.handshakeAborted .fatal .decodeError)
  else if HostName.isServerName serverName || IpAddress.isAddress serverName then .succeeded
  else .failed (.handshakeAborted .fatal .illegalParameter)

/-- Run a handshake. The peer accepts whatever credentials it is verified with. -/
def handshake (network : Network) (serverName : String) : Attempt TlsError :=
  if sentRecord < helloSize + serverName.utf8ByteSize then .failed .encodeError
  else if network.peer.hangsUp then .failed .ioError
  else if network.peer.secure then judgeName serverName
  else network.firstRecord

/-- What the network does when a connector asks. -/
def behaviour {κ : Type} (network : Network) : NetworkBehaviour κ where
  resolve name family :=
    match network.resolve name family with
    | some address => .found [address]
    | none => .failed
  dial := network.dial
  handshake serverName _ := network.handshake serverName

/-- The name that a TLS peer sees; addresses are not reported. -/
def announcedName (broker : BrokerConfig) : Option String :=
  (broker.tlsHostname.filter fun name => !IpAddress.isAddress name).map HostName.lowercase

end Network

end Uplink
