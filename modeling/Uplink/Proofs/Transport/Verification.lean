import Uplink.Transport.Connector

/-!
# TLS is not weakened

A connector decides in several places whether a broker is verified: by the settings, by what
the store holds, and once more when the connection stands and the handshake is chosen. What
an attempt does is a list in order, so that "before the network is touched" and "at most one
handshake" are properties of that list. `Guarded` gathers what every attempt with TLS
settings keeps, whatever the network answers and whatever is stored.
-/

namespace Uplink

variable {κ : Type}

/-! ## What stands in an attempt -/

namespace ConnectorStep

/-- Whether a step uses the network. -/
def onNetwork : ConnectorStep κ → Bool
  | lookup _ => false
  | unverified => false
  | resolve _ _ => true
  | dial _ _ => true
  | handshake _ _ => true

/-- The server name and the provider of a handshake. -/
def handshake? : ConnectorStep κ → Option (String × Option κ)
  | handshake serverName provider => some (serverName, provider)
  | _ => none

/-- The tag for which the store is asked. -/
def lookup? : ConnectorStep κ → Option UInt32
  | lookup secTag => some secTag
  | _ => none

end ConnectorStep

/-- The name of a broker has an address, and at the first one the port is answered. -/
def NetworkBehaviour.Reaches (network : NetworkBehaviour κ) (broker : BrokerConfig) : Prop :=
  ∃ address others, network.resolve broker.hostname broker.family = .found (address :: others) ∧
    network.dial address broker.port = .succeeded

namespace TlsSettings

/-- Verification is required, and nothing is stored under the tag. -/
def Lacks (settings : TlsSettings) (store : UInt32 → Option κ) : Prop :=
  settings.peerVerify = .required ∧ store settings.secTag = none

/-- The provider for a handshake: the one that is stored, unless the broker shall not be
verified. -/
def provider? (settings : TlsSettings) (store : UInt32 → Option κ) : Option κ :=
  if settings.peerVerify = .none then none else store settings.secTag

/-- What is asked of the store. -/
def inquiry (settings : TlsSettings) : List (ConnectorStep κ) :=
  if settings.peerVerify = .none then [] else [.lookup settings.secTag]

variable {settings : TlsSettings} {store : UInt32 → Option κ}

theorem provider?_of_stored {provider : κ} (verifies : settings.peerVerify ≠ .none)
    (stored : store settings.secTag = some provider) :
    settings.provider? store = some provider := by
  rw [provider?, if_neg verifies, stored]

/-- Settings that lack nothing go without a provider in two cases only. -/
theorem eq_none_or_optional (lacking : ¬ settings.Lacks store)
    (unverified : settings.provider? store = none) :
    settings.peerVerify = .none ∨
      settings.peerVerify = .optional ∧ store settings.secTag = none := by
  rw [provider?] at unverified
  cases strictness : settings.peerVerify with
  | none => exact .inl rfl
  | optional => exact .inr ⟨rfl, by simpa [strictness] using unverified⟩
  | required => exact absurd ⟨strictness, by simpa [strictness] using unverified⟩ lacking

end TlsSettings

namespace Connecting

/-- The handshakes of an attempt. -/
def handshakes (made : Connecting κ) : List (String × Option κ) :=
  made.actions.filterMap ConnectorStep.handshake?

/-- The tags for which the store was asked. -/
def lookups (made : Connecting κ) : List UInt32 := made.actions.filterMap ConnectorStep.lookup?

/-- Put steps in front of those of an attempt. -/
def afterAll (earlier : List (ConnectorStep κ)) (made : Connecting κ) : Connecting κ :=
  { made with actions := earlier ++ made.actions }

/-! ## Over TCP -/

variable {network : NetworkBehaviour κ} {broker : BrokerConfig} {next : Connecting κ}

/-- How an attempt goes that opens a connection before it goes on. -/
inductive Approached (network : NetworkBehaviour κ) (broker : BrokerConfig)
    (next : Connecting κ) : Connecting κ → Prop
  /-- The broker is not reached, and what comes next does not come about. -/
  | stopped {actions : List (ConnectorStep κ)} {outcome : Attempt ConnectError}
      (unreached : ¬ network.Reaches broker)
      (noHandshake : actions.filterMap ConnectorStep.handshake? = [])
      (noLookup : actions.filterMap ConnectorStep.lookup? = [])
      (ended : outcome ≠ .succeeded) : Approached network broker next ⟨actions, outcome⟩
  | opened (address : IpAddress) (reached : network.Reaches broker) :
      Approached network broker next
        ⟨.resolve broker.hostname broker.family :: .dial address broker.port :: next.actions,
          next.outcome⟩

theorem approached_overTcp (network : NetworkBehaviour κ) (broker : BrokerConfig)
    (next : Connecting κ) : Approached network broker next (overTcp network broker next) := by
  have unresolved {answer : Resolution}
      (resolves : network.resolve broker.hostname broker.family = answer)
      (nowhere : ∀ address others, answer ≠ .found (address :: others)) :
      ¬ network.Reaches broker := by
    rintro ⟨address, others, found, -⟩
    exact nowhere address others (resolves.symm.trans found)
  rw [overTcp, resolve]
  cases resolves : network.resolve broker.hostname broker.family with
  | failed => exact .stopped (unresolved resolves (by simp)) rfl rfl (by simp [refuse])
  | pending => exact .stopped (unresolved resolves (by simp)) rfl rfl (by simp)
  | found addresses =>
    cases addresses with
    | nil => exact .stopped (unresolved resolves (by simp)) rfl rfl (by simp [refuse])
    | cons address others =>
      have unanswered {answer : Attempt DialError}
          (dials : network.dial address broker.port = answer) (fails : answer ≠ .succeeded) :
          ¬ network.Reaches broker := by
        rintro ⟨other, rest, found, answered⟩
        obtain ⟨rfl, -⟩ : address = other ∧ others = rest := by
          simpa using resolves.symm.trans found
        exact fails (dials.symm.trans answered)
      dsimp only
      cases dials : network.dial address broker.port with
      | succeeded => exact .opened address ⟨address, others, resolves, dials⟩
      | failed fault =>
        exact .stopped (unanswered dials (by simp)) rfl rfl (by simp [after, refuse])
      | pending => exact .stopped (unanswered dials (by simp)) rfl rfl (by simp [after])

namespace Approached

variable {made : Connecting κ}

theorem lookups (course : Approached network broker next made) (silent : next.lookups = []) :
    made.lookups = [] := by
  cases course with
  | stopped _ _ noLookup _ => exact noLookup
  | opened address _ => exact silent

theorem handshakes_of_reaches (course : Approached network broker next made)
    (reached : network.Reaches broker) : made.handshakes = next.handshakes := by
  cases course with
  | stopped unreached => exact absurd reached unreached
  | opened address _ => rfl

/-- Without what comes next there is no handshake and no success. -/
theorem handshakes_eq (course : Approached network broker next made) :
    made.handshakes = next.handshakes ∧ made.outcome = next.outcome ∨
      made.handshakes = [] ∧ made.outcome ≠ .succeeded := by
  cases course with
  | stopped _ noHandshake _ ended => exact .inr ⟨noHandshake, ended⟩
  | opened address _ => exact .inl ⟨rfl, rfl⟩

theorem succeeded_iff (course : Approached network broker next made) :
    made.outcome = .succeeded ↔ network.Reaches broker ∧ next.outcome = .succeeded := by
  cases course with
  | stopped unreached _ _ ended => simp [unreached, ended]
  | opened address reached => simp [reached]

end Approached

theorem plain_succeeds_iff : (plain network broker).outcome = .succeeded ↔
    broker.tls = none ∧ network.Reaches broker := by
  rw [plain]
  cases broker.tls with
  | some settings => simp [refuse]
  | none => simp [(approached_overTcp network broker ⟨[], .succeeded⟩).succeeded_iff]

theorem handshakes_plain : (plain network broker).handshakes = [] := by
  rw [plain]
  split
  · rfl
  · have course := approached_overTcp network broker ⟨[], .succeeded⟩
    rcases course.handshakes_eq with ⟨same, -⟩ | ⟨nothing, -⟩
    · exact same
    · exact nothing

/-! ## With TLS -/

section Secure

variable {store : UInt32 → Option κ} {settings : TlsSettings} {serverName : String}
  {provider : Option κ}

theorem handshakes_secureStream :
    (secureStream network serverName provider).handshakes = [(serverName, provider)] := by
  cases provider <;> rfl

theorem lookups_secureStream : (secureStream network serverName provider).lookups = [] := by
  cases provider <;> rfl

theorem outcome_secureStream : (secureStream network serverName provider).outcome =
    (network.handshake serverName provider).mapFault .tls := by
  cases provider <;> rfl

theorem overTls_of_absent (absent : broker.tls = none) :
    overTls network store broker = refuse .tlsMissing := by
  rw [overTls, HandshakeTerms.ofBroker?, absent]

/-- Where required credentials are lacking, nothing follows the question for them. -/
theorem overTls_of_lacks (present : broker.tls = some settings)
    (lacking : settings.Lacks store) :
    overTls network store broker =
      ⟨[.lookup settings.secTag], .failed (.noCredentials settings.secTag)⟩ := by
  obtain ⟨required, missing⟩ := lacking
  simp [overTls, HandshakeTerms.ofBroker?, BrokerConfig.tlsHostname, present,
    HandshakeTerms.wantsCredentials, onTerms, HandshakeTerms.withoutCredentials, required, missing,
    after, refuse]

theorem onTerms_of_accepted {terms : HandshakeTerms}
    (accepted : provider = none → terms.peerVerify ≠ .required) :
    onTerms network broker terms provider =
      overTcp network broker (secureStream network terms.serverName provider) := by
  cases provider with
  | some provider => rfl
  | none =>
    have permits : terms.withoutCredentials = .ok () := by
      cases strictness : terms.peerVerify with
      | required => exact absurd strictness (accepted rfl)
      | optional => simp [HandshakeTerms.withoutCredentials, strictness]
      | none => simp [HandshakeTerms.withoutCredentials, strictness]
    simp only [onTerms, permits]

/-- In all other cases the broker is approached after the question, for one handshake. -/
theorem overTls_of_not_lacks (present : broker.tls = some settings)
    (named : broker.tlsHostname = some serverName) (complete : ¬ settings.Lacks store) :
    overTls network store broker = afterAll settings.inquiry
      (overTcp network broker (secureStream network serverName (settings.provider? store))) := by
  have terms : HandshakeTerms.ofBroker? broker =
      some ⟨serverName, settings.secTag, settings.peerVerify⟩ := by
    rw [HandshakeTerms.ofBroker?, present, named]
  have accepted : settings.provider? store = none → settings.peerVerify ≠ .required := by
    intro unverified required
    rcases TlsSettings.eq_none_or_optional complete unverified with never | ⟨optional, -⟩
    · exact absurd (required.symm.trans never) (by decide)
    · exact absurd (required.symm.trans optional) (by decide)
  by_cases never : settings.peerVerify = .none
  · rw [TlsSettings.provider?, if_pos never] at accepted ⊢
    rw [overTls, terms, TlsSettings.inquiry, if_pos never]
    simp only [HandshakeTerms.wantsCredentials, never, bne_self_eq_false, Bool.false_eq_true,
      if_false]
    rw [onTerms_of_accepted (by simp)]
    rfl
  · rw [TlsSettings.provider?, if_neg never] at accepted ⊢
    rw [overTls, terms, TlsSettings.inquiry, if_neg never]
    simp only [HandshakeTerms.wantsCredentials, bne_iff_ne, ne_eq, never, not_false_eq_true,
      if_true]
    rw [onTerms_of_accepted accepted]
    rfl

/-- What an attempt with TLS keeps. -/
structure Guarded (network : NetworkBehaviour κ) (store : UInt32 → Option κ)
    (broker : BrokerConfig) (settings : TlsSettings) (serverName : String)
    (made : Connecting κ) : Prop where
  /-- Where credentials are required and lacking, the attempt fails before the network is
  touched. -/
  refused : settings.peerVerify = .required → store settings.secTag = none →
    made.outcome = .failed (.noCredentials settings.secTag) ∧
      ∀ action ∈ made.actions, action.onNetwork = false
  /-- Before all else the store is asked for the tag of the settings, unless the broker shall
  not be verified, and it is not asked again. -/
  asked : ∃ later, made.actions = settings.inquiry ++ later ∧
    later.filterMap ConnectorStep.lookup? = []
  once : made.handshakes.length ≤ 1
  named : ∀ name provider, (name, provider) ∈ made.handshakes → name = serverName
  /-- What the store holds under the tag verifies the broker. -/
  verified : settings.peerVerify ≠ .none → ∀ stored, store settings.secTag = some stored →
    ∀ name provider, (name, provider) ∈ made.handshakes → provider = some stored
  /-- Verification is left out in two cases only. -/
  unverified : ∀ name, (name, none) ∈ made.handshakes → settings.peerVerify = .none ∨
    settings.peerVerify = .optional ∧ store settings.secTag = none
  /-- The attempt ends as its handshake does. -/
  decided : ∀ name provider, (name, provider) ∈ made.handshakes →
    made.outcome = (network.handshake name provider).mapFault .tls
  /-- There is a handshake wherever the broker is reached and nothing is lacking. -/
  runs : (settings.peerVerify = .required → store settings.secTag ≠ none) →
    network.Reaches broker → made.handshakes ≠ []
  /-- Without a handshake no attempt succeeds. -/
  secured : made.handshakes = [] → made.outcome ≠ .succeeded

theorem guarded_of_lacks (lacking : settings.Lacks store) :
    Guarded network store broker settings serverName
      ⟨[.lookup settings.secTag], .failed (.noCredentials settings.secTag)⟩ := by
  have asks : settings.inquiry = [(.lookup settings.secTag : ConnectorStep κ)] := by
    rw [TlsSettings.inquiry, if_neg (by simp [lacking.1])]
  have quiet : (⟨[.lookup settings.secTag], .failed (.noCredentials settings.secTag)⟩ :
      Connecting κ).handshakes = [] := rfl
  exact {
    refused := fun _ _ => ⟨rfl, by simp [ConnectorStep.onNetwork]⟩
    asked := ⟨[], by rw [asks, List.append_nil], rfl⟩
    once := by simp [quiet]
    named := by simp [quiet]
    verified := by simp [quiet]
    unverified := by simp [quiet]
    decided := by simp [quiet]
    runs := fun permitted => absurd lacking.2 (permitted lacking.1)
    secured := by simp }

theorem handshakes_afterAll_inquiry {made : Connecting κ} :
    (afterAll settings.inquiry made).handshakes = made.handshakes := by
  rw [handshakes, handshakes, afterAll, TlsSettings.inquiry]
  split
  · rfl
  · rfl

theorem guarded_of_not_lacks (complete : ¬ settings.Lacks store) :
    Guarded network store broker settings serverName (afterAll settings.inquiry
      (overTcp network broker (secureStream network serverName (settings.provider? store)))) := by
  have course := approached_overTcp network broker
    (secureStream network serverName (settings.provider? store))
  generalize overTcp network broker
    (secureStream network serverName (settings.provider? store)) = made at course ⊢
  -- There is at most the one handshake, and it decides.
  have only {name : String} {provider : Option κ} (run : (name, provider) ∈ made.handshakes) :
      name = serverName ∧ provider = settings.provider? store ∧
        made.outcome = (network.handshake name provider).mapFault .tls := by
    rcases course.handshakes_eq with ⟨same, ends⟩ | ⟨nothing, -⟩
    · rw [same, handshakes_secureStream, List.mem_singleton, Prod.mk.injEq] at run
      obtain ⟨rfl, rfl⟩ := run
      exact ⟨rfl, rfl, ends.trans outcome_secureStream⟩
    · rw [nothing] at run
      cases run
  refine ⟨?_, ?_, ?_, ?_, ?_, ?_, ?_, ?_, ?_⟩
  · exact fun required missing => absurd ⟨required, missing⟩ complete
  · exact ⟨made.actions, rfl, course.lookups lookups_secureStream⟩
  all_goals rw [handshakes_afterAll_inquiry]
  · rcases course.handshakes_eq with ⟨same, -⟩ | ⟨nothing, -⟩
    · rw [same, handshakes_secureStream]
      simp
    · simp [nothing]
  · exact fun name provider run => (only run).1
  · intro verifies stored isStored name provider run
    rw [(only run).2.1, TlsSettings.provider?_of_stored verifies isStored]
  · intro name run
    exact TlsSettings.eq_none_or_optional complete (only run).2.1.symm
  · exact fun name provider run => (only run).2.2
  · intro _ reached
    rw [course.handshakes_of_reaches reached, handshakes_secureStream]
    simp
  · intro none
    rcases course.handshakes_eq with ⟨same, -⟩ | ⟨-, ended⟩
    · rw [none, handshakes_secureStream] at same
      cases same
    · exact ended

end Secure

/-- TLS is not weakened, whatever the network answers and whatever is stored. The plain
connector refuses settings with TLS before the network is touched and never runs a handshake.
The secure connector refuses settings without TLS in the same way, and keeps what `Guarded`
says for all others, with the name in the TLS settings or else the broker's own. -/
theorem never_weakened (network : NetworkBehaviour κ) (store : UInt32 → Option κ)
    (broker : BrokerConfig) :
    (broker.tls.isSome → plain network broker = ⟨[], .failed .tlsUnsupported⟩) ∧
    (plain network broker).handshakes = [] ∧
    ((plain network broker).outcome = .succeeded ↔ broker.tls = none ∧ network.Reaches broker) ∧
    (broker.tls = none → overTls network store broker = ⟨[], .failed .tlsMissing⟩) ∧
    ∀ settings, broker.tls = some settings →
      broker.tlsHostname = some (settings.hostname.getD broker.hostname) ∧
        Guarded network store broker settings (settings.hostname.getD broker.hostname)
          (overTls network store broker) := by
  refine ⟨?_, handshakes_plain, plain_succeeds_iff, overTls_of_absent, ?_⟩
  · intro present
    rw [plain, if_pos present, refuse]
  · intro settings present
    have named : broker.tlsHostname = some (settings.hostname.getD broker.hostname) := by
      rw [BrokerConfig.tlsHostname, present, Option.map_some]
    refine ⟨named, ?_⟩
    by_cases lacking : settings.Lacks store
    · rw [overTls_of_lacks present lacking]
      exact guarded_of_lacks lacking
    · rw [overTls_of_not_lacks present named lacking]
      exact guarded_of_not_lacks lacking

/-- A provider is not given up when its handshake fails, although an unverified one would
succeed and verification is optional. -/
example : overTls
    { resolve := fun _ _ => .found [.v4 [10, 0, 0, 1]], dial := fun _ _ => .succeeded,
      handshake := fun _ provider => if provider.isSome then .failed .ioError else .succeeded }
    (fun secTag => if secTag = 7 then some "root" else none)
    { hostname := "broker", tls := some { peerVerify := .optional, secTag := 7 } } =
    ⟨[.lookup 7, .resolve "broker" .ipv4, .dial (.v4 [10, 0, 0, 1]) 1883,
      .handshake "broker" (some "root")], .failed (.tls .ioError)⟩ := by
  decide

end Connecting

end Uplink
