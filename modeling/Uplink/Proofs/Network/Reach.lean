import Mathlib.Algebra.Group.Nat.Defs
import Mathlib.Data.List.Induction
import Uplink.Network.Simulated
import Uplink.Proofs.Transport.Verification

/-!
# Reaching a broker in the simulated network

What is read as an address is one: `IpAddress.wellFormed_of_parse?`. A connector gets through
to a broker exactly when the first address of its name answers on the port, and with TLS only
when the peer speaks it and takes the server name: `Connecting.simulated_succeeds_iff`. The
peer takes no name that could not be asked for: `HostName.query?_of_isServerName`.
-/

namespace Uplink

/-! ## Addresses -/

namespace IpAddress

/-- Four numbers of one byte, or eight numbers of two. -/
def WellFormed : IpAddress → Prop
  | v4 octets => octets.length = 4 ∧ ∀ octet ∈ octets, octet ≤ 255
  | v6 groups => groups.length = 8 ∧ ∀ group ∈ groups, group < 65536

/-- What is read element by element has as many elements, each with what every reading has. -/
theorem forall_of_mapM {α β : Type} {read : α → Option β} {P : β → Prop}
    (each : ∀ item result, read item = some result → P result) {items : List α}
    {results : List β} (all : items.mapM read = some results) :
    results.length = items.length ∧ ∀ result ∈ results, P result := by
  induction items generalizing results with
  | nil =>
    cases all
    exact ⟨rfl, List.forall_mem_nil _⟩
  | cons item items ih =>
    simp only [List.mapM_cons, Option.bind_eq_bind, Option.pure_def, Option.bind_eq_some_iff,
      Option.some.injEq] at all
    obtain ⟨first, isFirst, others, areOthers, rfl⟩ := all
    obtain ⟨length, rest⟩ := ih areOthers
    exact ⟨congrArg Nat.succ length, List.forall_mem_cons.mpr ⟨each item first isFirst, rest⟩⟩

theorem lt_of_digit? {base digit : Nat} {c : Char} (read : digit? base c = some digit) :
    digit < base := by
  simp only [digit?, Option.ite_none_right_eq_some, Option.some.injEq] at read
  obtain ⟨below, rfl⟩ := read
  exact below

/-- Digits below a base are worth less than the base to their number. -/
theorem foldl_lt_pow {base : Nat} {digits : List Nat} (below : ∀ digit ∈ digits, digit < base) :
    digits.foldl (fun total digit => total * base + digit) 0 < base ^ digits.length := by
  induction digits using List.reverseRecOn with
  | nil => simp
  | append_singleton digits digit ih =>
    obtain ⟨earlier, last⟩ := List.forall_mem_append.mp below
    have first := ih earlier
    have final := last digit (List.mem_singleton_self digit)
    rw [List.foldl_append, List.foldl_cons, List.foldl_nil, List.length_append,
      List.length_singleton, Nat.pow_succ]
    calc _ < _ * base + base := Nat.add_lt_add_left final _
      _ = (_ + 1) * base := (Nat.succ_mul _ base).symm
      _ ≤ base ^ digits.length * base := Nat.mul_le_mul_right base first

theorem lt_of_number? {base width value : Nat} (positive : 0 < base) {text : String}
    (read : number? base width text = some value) : value < base ^ width := by
  unfold number? at read
  dsimp only at read
  split at read
  · cases read
  · next short =>
    simp only [Bool.or_eq_true, not_or, decide_eq_true_eq, Nat.not_lt] at short
    obtain ⟨digits, areDigits, rfl⟩ := Option.map_eq_some_iff.mp read
    obtain ⟨length, below⟩ := forall_of_mapM (fun _ _ => lt_of_digit?) areDigits
    calc _ < base ^ digits.length := foldl_lt_pow below
      _ ≤ base ^ width := Nat.pow_le_pow_right positive (length ▸ short.2)

theorem le_of_octet? {text : String} {octet : Nat} (read : octet? text = some octet) :
    octet ≤ 255 := by
  simp only [octet?, Option.bind_eq_bind, Option.bind_eq_some_iff,
    Option.ite_none_right_eq_some, Option.some.injEq] at read
  obtain ⟨value, -, ⟨small, -⟩, rfl⟩ := read
  exact small

theorem wellFormed_of_octets? {text : String} {octets : List Nat}
    (read : octets? text = some octets) : (v4 octets).WellFormed := by
  simp only [octets?, Option.bind_eq_bind, Option.bind_eq_some_iff,
    Option.ite_none_right_eq_some, Option.some.injEq] at read
  obtain ⟨all, areOctets, four, rfl⟩ := read
  exact ⟨four, (forall_of_mapM (fun _ _ => le_of_octet?) areOctets).2⟩

/-- A number that fits two bytes. -/
theorem lt_of_group? {text : String} {group : Nat} (read : number? 16 4 text = some group) :
    group < 65536 := lt_of_number? (by decide) read

theorem lt_of_lastGroups? {text : String} {groups : List Nat}
    (read : lastGroups? text = some groups) : ∀ group ∈ groups, group < 65536 := by
  unfold lastGroups? at read
  split at read
  · next a b c d four =>
    have small := (wellFormed_of_octets? four).2
    cases read
    simp only [List.mem_cons, List.not_mem_nil, or_false, forall_eq_or_imp, forall_eq] at small ⊢
    omega
  · obtain ⟨group, isGroup, rfl⟩ := Option.map_eq_some_iff.mp read
    exact List.forall_mem_singleton.mpr (lt_of_group? isGroup)

theorem lt_of_groups? {parts : List String} {groups : List Nat}
    (read : groups? parts = some groups) : ∀ group ∈ groups, group < 65536 := by
  induction parts using groups?.induct generalizing groups with
  | case1 =>
    cases read
    exact List.forall_mem_nil _
  | case2 last => exact lt_of_lastGroups? read
  | case3 first rest several ih =>
    simp only [groups?, Option.bind_eq_bind, Option.bind_eq_some_iff, Option.pure_def,
      Option.some.injEq] at read
    obtain ⟨group, isGroup, others, areOthers, rfl⟩ := read
    exact List.forall_mem_cons.mpr ⟨lt_of_group? isGroup, ih areOthers⟩

theorem lt_of_hexGroups? {text : String} {groups : List Nat}
    (read : hexGroups? text = some groups) : ∀ group ∈ groups, group < 65536 := by
  unfold hexGroups? at read
  split at read
  · cases read
    exact List.forall_mem_nil _
  · exact (forall_of_mapM (fun _ _ => lt_of_group?) read).2

theorem lt_of_tailGroups? {text : String} {groups : List Nat}
    (read : tailGroups? text = some groups) : ∀ group ∈ groups, group < 65536 := by
  unfold tailGroups? at read
  split at read
  · cases read
    exact List.forall_mem_nil _
  · exact lt_of_groups? read

theorem wellFormed_of_allGroups? {text : String} {groups : List Nat}
    (read : allGroups? text = some groups) : (v6 groups).WellFormed := by
  unfold allGroups? at read
  split at read
  · simp only [Option.bind_eq_bind, Option.bind_eq_some_iff, Option.ite_none_right_eq_some,
      Option.some.injEq] at read
    obtain ⟨all, areGroups, eight, rfl⟩ := read
    exact ⟨eight, lt_of_groups? areGroups⟩
  · simp only [Option.bind_eq_bind, Option.bind_eq_some_iff, Option.ite_none_right_eq_some,
      Option.some.injEq] at read
    obtain ⟨head, isHead, tail, isTail, room, rfl⟩ := read
    refine ⟨?_, fun group among => ?_⟩
    · simp only [List.length_append, List.length_replicate]
      omega
    · simp only [List.mem_append, List.mem_replicate] at among
      rcases among with (inHead | ⟨-, rfl⟩) | inTail
      · exact lt_of_hexGroups? isHead group inHead
      · decide
      · exact lt_of_tailGroups? isTail group inTail
  · cases read

/-- What is read as an address of a family is one. -/
theorem wellFormed_of_parse? {family : AddressFamily} {text : String} {address : IpAddress}
    (read : parse? family text = some address) : address.WellFormed := by
  cases family with
  | ipv4 =>
    obtain ⟨octets, areOctets, rfl⟩ := Option.map_eq_some_iff.mp read
    exact wellFormed_of_octets? areOctets
  | ipv6 =>
    obtain ⟨groups, areGroups, rfl⟩ := Option.map_eq_some_iff.mp read
    exact wellFormed_of_allGroups? areGroups

end IpAddress

/-! ## Names -/

namespace HostName

theorem utf8ByteSize_withoutDot_le (name : String) :
    (withoutDot name).utf8ByteSize ≤ name.utf8ByteSize := by
  unfold withoutDot
  split
  · obtain ⟨last, split⟩ := List.dropLast_prefix name.toList
    have whole : String.ofList name.toList.dropLast ++ String.ofList last = name := by
      rw [← String.toList_inj, String.toList_append, String.toList_ofList, String.toList_ofList,
        split]
    have size := congrArg String.utf8ByteSize whole
    rw [String.utf8ByteSize_append] at size
    omega
  · exact Nat.le_refl _

/-- The name service can be asked for every name that a TLS peer takes. -/
theorem query?_of_isServerName {name : String} (taken : isServerName name = true) :
    query? name = some (withoutDot name) := by
  simp only [isServerName, Bool.and_eq_true, decide_eq_true_eq, List.all_eq_true] at taken
  obtain ⟨⟨short, areLabels⟩, -⟩ := taken
  have labelled : (labels (withoutDot name)).all isLabel = true := by
    refine List.all_eq_true.mpr fun label among => ?_
    have isLabel := areLabels label among
    simp only [isServerLabel, Bool.and_eq_true] at isLabel
    exact isLabel.1.1.1
  have fits := Nat.le_trans (utf8ByteSize_withoutDot_le name) short
  simp [query?, labelled, fits]

end HostName

/-! ## Brokers -/

namespace Network

variable {network : Network} {serverName : String}

/-- The peer answers on a port of an address. -/
structure Answers (network : Network) (address : IpAddress) (port : UInt16) : Prop where
  wellFormed : address.WellFormed
  specified : port ≠ 0 ∧ address.isUnspecified = false
  patient : network.timeout ≠ some 0
  answered : isAnswered address = true
  listening : port ∈ network.listening

/-- The first address of a broker's name answers on its port. -/
def Answered (network : Network) (broker : BrokerConfig) : Prop :=
  ∃ address, network.resolve broker.hostname broker.family = some address ∧
    network.Answers address broker.port

/-- The peer takes part in a handshake for a server name. -/
structure Welcomes (network : Network) (serverName : String) : Prop where
  fits : helloSize + serverName.utf8ByteSize ≤ sentRecord
  stays : network.peer.hangsUp = false
  secure : network.peer.secure = true
  named : serverName ≠ "" ∧
    (HostName.isServerName serverName = true ∨ IpAddress.isAddress serverName = true)

theorem wait_ne_succeeded {ε : Type} (reset : ε) : network.wait reset ≠ .succeeded := by
  unfold wait
  split <;> nofun

/-- A peer without TLS never completes a handshake, whatever it sends. -/
theorem firstRecord_ne_succeeded : network.firstRecord ≠ .succeeded := by
  unfold firstRecord
  split
  · dsimp only
    split
    · nofun
    · split
      · nofun
      · split
        · exact wait_ne_succeeded _
        · split
          · nofun
          · split <;> nofun
  · exact wait_ne_succeeded _

theorem judgeName_eq_succeeded_iff : judgeName serverName = .succeeded ↔ serverName ≠ "" ∧
    (HostName.isServerName serverName = true ∨ IpAddress.isAddress serverName = true) := by
  unfold judgeName
  split
  · next empty => simp_all
  · split <;> simp_all

theorem handshake_eq_succeeded_iff :
    network.handshake serverName = .succeeded ↔ network.Welcomes serverName := by
  unfold handshake
  constructor
  · intro succeeds
    split at succeeds
    · cases succeeds
    · next fits =>
      split at succeeds
      · cases succeeds
      · next stays =>
        split at succeeds
        · next secure =>
          exact ⟨Nat.le_of_not_lt fits, Bool.eq_false_iff.mpr stays, secure,
            judgeName_eq_succeeded_iff.mp succeeds⟩
        · exact absurd succeeds firstRecord_ne_succeeded
  · rintro ⟨fits, stays, secure, named⟩
    rw [if_neg (Nat.not_lt.mpr fits), stays, secure]
    exact judgeName_eq_succeeded_iff.mpr named

/-- Every address that the network resolves a name to is one. -/
theorem wellFormed_of_resolve {name : String} {family : AddressFamily} {address : IpAddress}
    (found : network.resolve name family = some address) : address.WellFormed := by
  unfold resolve at found
  split at found
  · next spelled =>
    cases found
    exact IpAddress.wellFormed_of_parse? spelled
  · simp only [Option.bind_eq_bind, Option.bind_eq_some_iff] at found
    obtain ⟨asked, -, entry, -, chosen⟩ := found
    cases family with
    | ipv4 =>
      obtain ⟨first, -, spelled⟩ := Option.bind_eq_some_iff.mp chosen
      exact IpAddress.wellFormed_of_parse? spelled
    | ipv6 =>
      obtain ⟨first, -, spelled⟩ := Option.bind_eq_some_iff.mp chosen
      exact IpAddress.wellFormed_of_parse? spelled

theorem dial_eq_succeeded_iff {address : IpAddress} {port : UInt16} :
    network.dial address port = .succeeded ↔ port ≠ 0 ∧ address.isUnspecified = false ∧
      network.timeout ≠ some 0 ∧ isAnswered address = true ∧ port ∈ network.listening := by
  unfold dial
  constructor
  · intro succeeds
    split at succeeds
    · cases succeeds
    · next specified =>
      split at succeeds
      · cases succeeds
      · next patient =>
        split at succeeds
        · next answered =>
          split at succeeds
          · next listening =>
            simp only [Bool.or_eq_true, decide_eq_true_eq, not_or] at specified
            exact ⟨specified.1, Bool.eq_false_iff.mpr specified.2, patient, answered,
              List.contains_iff_mem.mp listening⟩
          · cases succeeds
        · exact absurd succeeds (wait_ne_succeeded _)
  · rintro ⟨port, specified, patient, answered, listening⟩
    simp [port, specified, patient, answered, listening]

/-- A broker is reached exactly when it is answered. -/
theorem reaches_iff {κ : Type} {broker : BrokerConfig} :
    (network.behaviour : NetworkBehaviour κ).Reaches broker ↔ network.Answered broker := by
  unfold NetworkBehaviour.Reaches Answered behaviour
  dsimp only
  constructor
  · rintro ⟨address, others, found, dialled⟩
    split at found
    · next resolved =>
      cases found
      obtain ⟨port, specified, patient, answered, listening⟩ := dial_eq_succeeded_iff.mp dialled
      exact ⟨address, resolved, wellFormed_of_resolve resolved, ⟨port, specified⟩, patient,
        answered, listening⟩
    · cases found
  · rintro ⟨address, resolved, answers⟩
    refine ⟨address, [], ?_, dial_eq_succeeded_iff.mpr ⟨answers.specified.1, answers.specified.2,
      answers.patient, answers.answered, answers.listening⟩⟩
    rw [resolved]

end Network

theorem Attempt.mapFault_eq_succeeded {ε δ : Type} {report : ε → δ} {attempt : Attempt ε} :
    attempt.mapFault report = .succeeded ↔ attempt = .succeeded := by
  cases attempt <;> simp [mapFault]

namespace Connecting

variable {κ : Type}

/-- An attempt with TLS succeeds exactly when nothing that is required is lacking, the broker is
reached, and the handshake with the provider that there is goes through. -/
theorem overTls_succeeds_iff {network : NetworkBehaviour κ} {store : UInt32 → Option κ}
    {broker : BrokerConfig} : (overTls network store broker).outcome = .succeeded ↔
      ∃ settings, broker.tls = some settings ∧ ¬ settings.Lacks store ∧ network.Reaches broker ∧
        network.handshake (settings.hostname.getD broker.hostname) (settings.provider? store) =
          .succeeded := by
  cases present : broker.tls with
  | none =>
    rw [overTls_of_absent present]
    exact iff_of_false (by simp [refuse]) (by simp)
  | some settings =>
    have named : broker.tlsHostname = some (settings.hostname.getD broker.hostname) := by
      rw [BrokerConfig.tlsHostname, present, Option.map_some]
    simp only [Option.some.injEq, exists_eq_left']
    by_cases lacking : settings.Lacks store
    · rw [overTls_of_lacks present lacking]
      exact iff_of_false (by simp) fun able => able.1 lacking
    · have course := approached_overTcp network broker
        (secureStream network (settings.hostname.getD broker.hostname) (settings.provider? store))
      rw [overTls_of_not_lacks present named lacking, afterAll, course.succeeded_iff,
        outcome_secureStream, Attempt.mapFault_eq_succeeded]
      exact ⟨fun reached => ⟨lacking, reached⟩, fun able => able.2⟩

/-- In the simulated network, a broker without TLS settings is connected to exactly when the
first address of its name answers on the port, and one with TLS settings when moreover the
peer takes part in the handshake for its server name. A peer without TLS never does, and
credentials that are required and lacking are never overlooked. -/
theorem simulated_succeeds_iff (network : Network) (store : UInt32 → Option κ)
    (broker : BrokerConfig) :
    ((plain (network.behaviour : NetworkBehaviour κ) broker).outcome = .succeeded ↔
      broker.tls = none ∧ network.Answered broker) ∧
      ((overTls network.behaviour store broker).outcome = .succeeded ↔
        ∃ settings, broker.tls = some settings ∧ ¬ settings.Lacks store ∧
          network.Answered broker ∧
          network.Welcomes (settings.hostname.getD broker.hostname)) := by
  constructor
  · rw [plain_succeeds_iff, Network.reaches_iff]
  · rw [overTls_succeeds_iff]
    simp only [Network.reaches_iff, ← Network.handshake_eq_succeeded_iff]
    rfl

end Connecting

end Uplink
