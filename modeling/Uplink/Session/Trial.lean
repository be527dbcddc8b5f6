import Uplink.Link.Scripted
import Uplink.Session.Client
import Uplink.Session.SessionError

/-!
# A client on a scripted link

`Trial.perform` takes a client through single operations on a scripted link and
records what the link sees. An operation that would have to wait is abandoned: what
it had done until then stays done.
-/

namespace Uplink

/-- A client, its link, the clock, and what the link has seen. -/
structure Trial where
  client : Client
  link : Link := {}
  now : Micros := 0
  /-- What the link has seen, latest first. -/
  seen : List LinkEvent := []

/-- One operation of a trial. -/
inductive TrialStep where
  | deliver (delivery : Delivery)
  | sendMode (mode : Outcome)
  | advance (time : Micros)
  | connect
  | publish (topic : String) (payload : Bytes) (qos : QoS)
  | subscribe (topic : String) (qos : QoS)
  | ping
  | pubAck (packetId : UInt16)
  | pubRel (packetId : UInt16)
  | disconnect
  | abort
  | fill
  | next
  | timeLeft
  /-- Publish nothing on the topic `t` a number of times, without record. -/
  | bump (count : Nat)

/-- What an operation answers. -/
inductive TrialAnswer where
  | pending
  | failed (fault : SessionError LinkFault)
  | done
  | packetId (packetId : UInt16)
  | packet (packet : Option Inbound)
  | time (left : Option Micros)

namespace Trial

/-- Send a packet and answer with `reply`. -/
def send (trial : Trial) (packet : Outbound) (reply : TrialAnswer) : TrialAnswer × Trial :=
  match trial.client.encode packet with
  | .error fault => (.failed (.protocol fault), trial)
  | .ok frame =>
    match trial.link.send? with
    | none => (.pending, trial)
    | some (.error fault) =>
      (.failed (.transport fault), { trial with seen := .sendFailed frame :: trial.seen })
    | some (.ok _) =>
      (reply, { trial with
        client := trial.client.sentAt trial.now, seen := .sent frame :: trial.seen })

/-- Publish a message under the next packet identifier. -/
def publish (trial : Trial) (topic : String) (payload : Bytes) (qos : QoS) :
    TrialAnswer × Trial :=
  let (packetId, client) := trial.client.takeId
  { trial with client }.send (.publish { topic, payload, qos, packetId }) (.packetId packetId)

/-- Subscribe to a topic under the next packet identifier. -/
def subscribe (trial : Trial) (topic : String) (qos : QoS) : TrialAnswer × Trial :=
  let (packetId, client) := trial.client.takeId
  { trial with client }.send (.subscribe ⟨packetId, [(topic, qos)]⟩) (.packetId packetId)

/-- Receive once into the free space of the buffer. -/
def fill (trial : Trial) : TrialAnswer × Trial :=
  let client := trial.client.release
  let trial := { trial with client }
  if client.room = 0 then (.failed (.protocol .payloadTooLarge), trial)
  else match trial.link.receive? client.room with
    | none => (.pending, trial)
    | some (.error fault, link) => (.failed (.transport fault), { trial with link })
    | some (.ok [], link) => (.failed (.protocol .connectionClosed), { trial with link })
    | some (.ok bytes, link) => (.done, { trial with link, client := client.absorb bytes })

/-- Hand out the next packet. -/
def next (trial : Trial) : TrialAnswer × Trial :=
  let (packet, client) := trial.client.next
  let answer : TrialAnswer := match packet with
    | .ok packet => .packet packet
    | .error fault => .failed (.protocol fault)
  (answer, { trial with client })

/-- Publish nothing a number of times and answer what the last one did. -/
def bump (trial : Trial) : (count : Nat) → (last : TrialAnswer) → TrialAnswer × Trial
  | 0, last => (last, trial)
  | count + 1, _ =>
    let (answer, after) := trial.publish "t" [] .atMostOnce
    { after with seen := trial.seen }.bump count answer

/-- Perform one operation. -/
def perform (trial : Trial) : TrialStep → TrialAnswer × Trial
  | .deliver delivery => (.done, { trial with link := trial.link.deliver delivery })
  | .sendMode sendMode => (.done, { trial with link := { trial.link with sendMode } })
  | .advance time => (.done, { trial with now := trial.now + time })
  | .connect => trial.send trial.client.options.connect .done
  | .publish topic payload qos => trial.publish topic payload qos
  | .subscribe topic qos => trial.subscribe topic qos
  | .ping => trial.send .pingReq .done
  | .pubAck packetId => trial.send (.acknowledge .pubAck packetId) .done
  | .pubRel packetId => trial.send (.acknowledge .pubRel packetId) .done
  | .disconnect => trial.send .disconnect .done
  | .abort => (.done, { trial with seen := .aborted :: trial.seen })
  | .fill => trial.fill
  | .next => trial.next
  | .timeLeft => (.time (trial.client.timeLeft trial.now), trial)
  | .bump count => trial.bump count .done

end Trial

end Uplink
