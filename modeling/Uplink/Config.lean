/-!
# Configuration

Where the broker is, how it is verified, and the limits within which sessions and
requests stay. Times are in microseconds.
-/

namespace Uplink

/-- A span of time or a moment, in microseconds. -/
abbrev Micros := Nat

/-- Microseconds in one second. -/
def microsPerSecond : Micros := 1000000

namespace Limits

/-- Longest client identifier of a session, in bytes, with what is put in front of it. -/
def clientId : Nat := 40

/-- Size of the buffer in which a session assembles packets, in each direction. -/
def packetBuffer : Nat := 1280

/-- Largest payload that is delivered or queued. -/
def payload : Nat := 1024

/-- Longest topic, in bytes. -/
def topic : Nat := 128

/-- Number of requests that can wait for the polling task. -/
def queuedRequests : Nat := 4

end Limits

/-- The kind of address that a hostname is resolved to. -/
inductive AddressFamily where
  | ipv4
  | ipv6
deriving DecidableEq, Repr

/-- How strictly the broker's certificate is checked. -/
inductive PeerVerify where
  | none
  | optional
  | required
deriving DecidableEq, Repr

/-- How to secure the connection to the broker. -/
structure TlsSettings where
  peerVerify : PeerVerify := .required
  /-- The tag under which the credentials are stored. -/
  secTag : UInt32
  /-- The name to verify, when it is not the broker's hostname. -/
  hostname : Option String := none
deriving DecidableEq, Repr

/-- Where and how to reach the broker. -/
structure BrokerConfig where
  hostname : String
  port : UInt16 := 1883
  family : AddressFamily := .ipv4
  tls : Option TlsSettings := none
deriving DecidableEq, Repr

/-- The name that the broker has to prove; none without TLS. -/
def BrokerConfig.tlsHostname (broker : BrokerConfig) : Option String :=
  broker.tls.map fun tls => tls.hostname.getD broker.hostname

/-- How a backend runs its sessions. -/
structure BackendConfig where
  broker : BrokerConfig
  /-- Keep-alive that sessions announce, before it is cut to what they can announce. -/
  keepAlive : Micros := 60 * microsPerSecond
  /-- Put in front of the device's identifier. -/
  clientIdPrefix : String := "nrf-"
deriving DecidableEq, Repr

end Uplink
