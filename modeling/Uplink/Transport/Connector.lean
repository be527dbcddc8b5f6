import Uplink.Network.Address
import Uplink.Transport.TlsError

/-!
# Connectors

A connector decides how the broker is reached. The plain connector refuses settings
that ask for TLS. The secure connector refuses settings without it, looks up the
credentials before the network is touched, and falls back to an unverified handshake
only where the settings allow it. What a connector asks of the network and of the
credential store is recorded in order; the network and the store are parameters, and so
is what a store hands out to verify a broker with.
-/

namespace Uplink

/-- Why a connection could not be opened. -/
inductive DialError where
  | connectionReset
  | noRoute
deriving DecidableEq, Repr

/-- The name under which a failed connection is reported. -/
def DialError.name : DialError → String
  | connectionReset => "ConnectionReset"
  | noRoute => "NoRoute"

/-- Why a connector failed. -/
inductive ConnectError where
  /-- The hostname has no address of the family. -/
  | resolve
  | tcp (fault : DialError)
  /-- The settings ask for TLS. -/
  | tlsUnsupported
  /-- The settings have no TLS. -/
  | tlsMissing
  /-- Verification is required and nothing is stored under the tag. -/
  | noCredentials (secTag : UInt32)
  | tls (fault : TlsError)
deriving DecidableEq, Repr

/-- The wording of each failure. -/
def ConnectError.message : ConnectError → String
  | resolve => "broker hostname did not resolve"
  | tcp fault => "tcp connect failed: " ++ fault.name
  | tlsUnsupported => "tls not supported by this connector"
  | tlsMissing => "broker configuration has no tls settings"
  | noCredentials secTag => "no credentials for security tag " ++ toString secTag.toNat
  | tls fault => "tls handshake failed: " ++ fault.name

/-- How something that the network does ends. -/
inductive Attempt (ε : Type) where
  | succeeded
  | failed (fault : ε)
  /-- Nothing happens any more. -/
  | pending
deriving DecidableEq, Repr

/-- Report a fault as another one. -/
def Attempt.mapFault {ε δ : Type} (report : ε → δ) : Attempt ε → Attempt δ
  | succeeded => succeeded
  | failed fault => failed (report fault)
  | pending => pending

/-- What comes of asking for the addresses of a name. -/
inductive Resolution where
  | found (addresses : List IpAddress)
  | failed
  /-- No answer comes. -/
  | pending
deriving DecidableEq, Repr

/-- What a network does when it is asked. -/
structure NetworkBehaviour (κ : Type) where
  /-- Ask for the addresses of a family that a name has. -/
  resolve : String → AddressFamily → Resolution
  /-- Open a connection to a port. -/
  dial : IpAddress → UInt16 → Attempt DialError
  /-- Run a handshake for a server name, verified by a provider or unverified. -/
  handshake : (serverName : String) → (provider : Option κ) → Attempt TlsError

/-- What a connector does. -/
inductive ConnectorStep (κ : Type) where
  /-- Ask the store for the provider under a tag. -/
  | lookup (secTag : UInt32)
  /-- Ask the store for randomness, for a handshake without verification. -/
  | unverified
  | resolve (hostname : String) (family : AddressFamily)
  | dial (address : IpAddress) (port : UInt16)
  | handshake (serverName : String) (provider : Option κ)
deriving DecidableEq, Repr

/-- What a connector does when its providers are known by their tags. -/
abbrev ConnectorAction := ConnectorStep UInt32

/-- What a connector did, and how its attempt ended. -/
structure Connecting (κ : Type) where
  actions : List (ConnectorStep κ)
  outcome : Attempt ConnectError
deriving DecidableEq, Repr

/-- The handshake that the settings of a broker ask for. -/
structure HandshakeTerms where
  serverName : String
  secTag : UInt32
  peerVerify : PeerVerify
deriving DecidableEq, Repr

namespace HandshakeTerms

/-- The terms for a broker; none without TLS settings. -/
def ofBroker? (broker : BrokerConfig) : Option HandshakeTerms :=
  match broker.tls, broker.tlsHostname with
  | some settings, some serverName => some ⟨serverName, settings.secTag, settings.peerVerify⟩
  | _, _ => none

/-- Whether the credential store is asked at all. -/
def wantsCredentials (terms : HandshakeTerms) : Bool := terms.peerVerify != .none

/-- What becomes of a handshake for which nothing is stored. -/
def withoutCredentials (terms : HandshakeTerms) : Except ConnectError Unit :=
  match terms.peerVerify with
  | .required => .error (.noCredentials terms.secTag)
  | .optional => .ok ()
  | .none => .ok ()

end HandshakeTerms

namespace Connecting

variable {κ : Type}

/-- End without doing anything more. -/
def refuse (fault : ConnectError) : Connecting κ := ⟨[], .failed fault⟩

/-- Do something first. -/
def after (action : ConnectorStep κ) (rest : Connecting κ) : Connecting κ :=
  { rest with actions := action :: rest.actions }

/-- Resolve the broker to its first address. -/
def resolve (network : NetworkBehaviour κ) (broker : BrokerConfig)
    (next : IpAddress → Connecting κ) : Connecting κ :=
  after (.resolve broker.hostname broker.family) <|
    match network.resolve broker.hostname broker.family with
    | .found (address :: _) => next address
    | .found [] => refuse .resolve
    | .failed => refuse .resolve
    | .pending => ⟨[], .pending⟩

/-- Resolve the broker and open a connection, then go on. -/
def overTcp (network : NetworkBehaviour κ) (broker : BrokerConfig) (next : Connecting κ) :
    Connecting κ :=
  resolve network broker fun address =>
    after (.dial address broker.port) <|
      match network.dial address broker.port with
      | .succeeded => next
      | .failed fault => refuse (.tcp fault)
      | .pending => ⟨[], .pending⟩

/-- Connect without TLS. -/
def plain (network : NetworkBehaviour κ) (broker : BrokerConfig) : Connecting κ :=
  if broker.tls.isSome then refuse .tlsUnsupported
  else overTcp network broker ⟨[], .succeeded⟩

/-- Run a handshake. -/
def handshake (network : NetworkBehaviour κ) (serverName : String) (provider : Option κ) :
    Connecting κ :=
  after (.handshake serverName provider)
    ⟨[], (network.handshake serverName provider).mapFault .tls⟩

/-- Run a handshake with the provider that there is, if any. -/
def secureStream (network : NetworkBehaviour κ) (serverName : String) :
    (provider : Option κ) → Connecting κ
  | some provider => handshake network serverName (some provider)
  | none => after .unverified (handshake network serverName none)

/-- Connect on the terms of a broker, with what the store gave out. -/
def onTerms (network : NetworkBehaviour κ) (broker : BrokerConfig) (terms : HandshakeTerms)
    (provider : Option κ) : Connecting κ :=
  match provider, terms.withoutCredentials with
  | none, .error fault => refuse fault
  | _, _ => overTcp network broker (secureStream network terms.serverName provider)

/-- Connect with TLS. -/
def overTls (network : NetworkBehaviour κ) (store : UInt32 → Option κ) (broker : BrokerConfig) :
    Connecting κ :=
  match HandshakeTerms.ofBroker? broker with
  | none => refuse .tlsMissing
  | some terms =>
    if terms.wantsCredentials then
      after (.lookup terms.secTag) (onTerms network broker terms (store terms.secTag))
    else onTerms network broker terms none

/-- Connect with TLS when the store is known by its tags. -/
def secure (network : NetworkBehaviour UInt32) (stored : UInt32 → Bool) (broker : BrokerConfig) :
    Connecting UInt32 :=
  overTls network (fun secTag => if stored secTag then some secTag else none) broker

end Connecting

end Uplink
