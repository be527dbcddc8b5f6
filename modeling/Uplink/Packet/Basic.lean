import Uplink.Packet.QoS
import Uplink.Text.Utf8

/-!
# Control packets

The packets of an MQTT 3.1.1 session as the client knows them: `Outbound` are those
it sends, `Inbound` those it accepts from the broker. Only `Publish` goes both ways
with a body of its own; the four acknowledgements carry nothing but an identifier.
-/

namespace Uplink

/-- The request that opens a session. -/
structure Connect where
  clientId : String
  /-- Longest silence, in seconds, that the client promises; zero promises nothing. -/
  keepAlive : UInt16
  cleanSession : Bool
deriving DecidableEq, Repr

/-- A message on a topic. -/
structure Publish where
  topic : String
  payload : Bytes
  qos : QoS
  /-- Present in messages that are acknowledged. -/
  packetId : Option UInt16
  retain : Bool := false
  dup : Bool := false
deriving DecidableEq, Repr

/-- A request for the messages on some topics. -/
structure Subscribe where
  packetId : UInt16
  topics : List (String × QoS)
deriving DecidableEq, Repr

/-- The broker's answer to a connection request. -/
structure ConnAck where
  sessionPresent : Bool
  returnCode : UInt8
deriving DecidableEq, Repr

/-- The broker's answer to a subscription, with one code per topic. -/
structure SubAck where
  packetId : UInt16
  returnCodes : List UInt8
deriving DecidableEq, Repr

namespace SubAck

/-- The code that refuses a topic. -/
def failure : UInt8 := 0x80

/-- Whether the broker refused some topic. -/
def isRejected (ack : SubAck) : Bool := ack.returnCodes.contains failure

/-- The most topics whose answers a client takes in one packet. -/
def maxCodes : Nat := 8

end SubAck

/-- The packets that carry a packet identifier and nothing else. -/
inductive Acknowledgement where
  | pubAck
  | pubRec
  | pubRel
  | pubComp
deriving DecidableEq, Repr

/-- Packets that a client sends. -/
inductive Outbound where
  | connect (request : Connect)
  | publish (message : Publish)
  | acknowledge (kind : Acknowledgement) (packetId : UInt16)
  | subscribe (request : Subscribe)
  | pingReq
  | disconnect
deriving DecidableEq, Repr

/-- Packets that a client accepts from the broker. -/
inductive Inbound where
  | connAck (answer : ConnAck)
  | publish (message : Publish)
  | acknowledge (kind : Acknowledgement) (packetId : UInt16)
  | subAck (answer : SubAck)
  | pingResp
deriving DecidableEq, Repr

end Uplink
