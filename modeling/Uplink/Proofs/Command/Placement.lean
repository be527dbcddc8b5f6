import Uplink.Proofs.Command.Reporting

/-!
# Where a walk ends

A command tree can be any tree. `Node.visits` lists the nodes that a depth-first walk comes
to, in the order of declaration: a node, and its children when the node stands at its level
and the document has its name. Searching reports the commands of this list up to its first
misplaced node, and fails exactly when there is one. `Node.Astray` says where such a node
can stand, and `Node.Alike` which parts of a tree no search looks at. In the vocabulary there
is no such node, so decoding a document is all or nothing.
-/

namespace Uplink

/-- What a walk sees of a node: how many levels there are below it, what the names above it
and its own name stand for, and what its name finds. -/
structure Visit where
  height : Nat
  above : List NodeKind
  kind : NodeKind
  found : Option Json

namespace Visit

/-- The node stands at the level at which its kind belongs. -/
def placed (visit : Visit) : Bool := visit.kind.height == visit.height

/-- The command of an action node whose name the document has. -/
def command? (visit : Visit) : Option Command :=
  visit.found.bind (Command.of? (visit.above ++ [visit.kind]))

end Visit

namespace Node

/-- The nodes that a depth-first walk comes to from the root of a subtree on, given the
levels below it, the kinds above it and what its name finds. -/
def visits : (height : Nat) → (above : List NodeKind) → (found : Option Json) → Node → List Visit
  | 0, above, found, subtree => [⟨0, above, subtree.kind, found⟩]
  | height + 1, above, found, subtree =>
    ⟨height + 1, above, subtree.kind, found⟩ ::
      if subtree.kind.height = height + 1 then
        found.elim [] fun inner => subtree.children.flatMap fun child =>
          visits height (above ++ [subtree.kind]) (inner.select? child.key) child
      else []

/-- The nodes that a walk comes to in a tree; the document is what stands under the name of
the root. -/
def walk (root : Node) (document : Json) : List Visit := root.visits 3 [] (some document)

/-- A walk comes to a node that stands at a level other than its own. -/
inductive Astray (root : Node) (document : Json) : Prop
  | root (kind : ∀ group, root.kind ≠ .group group)
  | recipient {child : Node} (among : child ∈ root.children)
      (kind : ∀ recipient, child.kind ≠ .recipient recipient)
  | channel {top child : Node} {recipient : Recipient} {inner : Json}
      (topAmong : top ∈ root.children) (topKind : top.kind = .recipient recipient)
      (topNamed : document.Selects top.key inner) (among : child ∈ top.children)
      (kind : ∀ channel, child.kind ≠ .channel channel)
  | action {top middle child : Node} {recipient : Recipient} {channel : Channel}
      {inner deeper : Json} (topAmong : top ∈ root.children)
      (topKind : top.kind = .recipient recipient) (topNamed : document.Selects top.key inner)
      (middleAmong : middle ∈ top.children) (middleKind : middle.kind = .channel channel)
      (middleNamed : inner.Selects middle.key deeper) (among : child ∈ middle.children)
      (kind : ∀ action, child.kind ≠ .action action)

/-- Siblings that are the same one by one, except for what stands below actions and below
names that the document lacks. -/
inductive Alike : (document : Json) → (nodes others : List Node) → Prop
  | nil {document : Json} : Alike document [] []
  | action {document : Json} {key : String} {action : CommandAction}
      {children different nodes others : List Node} (rest : Alike document nodes others) :
      Alike document (.node key (.action action) children :: nodes)
        (.node key (.action action) different :: others)
  | absent {document : Json} {key : String} {kind : NodeKind}
      {children different nodes others : List Node}
      (unnamed : ∀ found, ¬ document.Selects key found) (rest : Alike document nodes others) :
      Alike document (.node key kind children :: nodes) (.node key kind different :: others)
  | present {document inner : Json} {key : String} {kind : NodeKind}
      {children different nodes others : List Node} (named : document.Selects key inner)
      (below : Alike inner children different) (rest : Alike document nodes others) :
      Alike document (.node key kind children :: nodes) (.node key kind different :: others)

/-- Two trees whose roots stand for the same are the same one node by one, except for what
stands below actions and below names that the document lacks. -/
inductive AlikeTrees (document : Json) : (root other : Node) → Prop
  | action {key other : String} {action : CommandAction} {children different : List Node} :
      AlikeTrees document (.node key (.action action) children)
        (.node other (.action action) different)
  | children {key other : String} {kind : NodeKind} {children different : List Node}
      (below : Alike document children different) :
      AlikeTrees document (.node key kind children) (.node other kind different)

end Node

namespace NodeKind

variable {kind : NodeKind}

theorem height_eq_two : kind.height = 2 ↔ ∃ recipient, kind = .recipient recipient := by
  cases kind <;> simp [height]

theorem height_eq_one : kind.height = 1 ↔ ∃ channel, kind = .channel channel := by
  cases kind <;> simp [height]

theorem height_ne_three : kind.height ≠ 3 ↔ ∀ group, kind ≠ .group group := by
  cases kind <;> simp [height]

theorem height_ne_two : kind.height ≠ 2 ↔ ∀ recipient, kind ≠ .recipient recipient := by
  cases kind <;> simp [height]

theorem height_ne_one : kind.height ≠ 1 ↔ ∀ channel, kind ≠ .channel channel := by
  cases kind <;> simp [height]

theorem height_ne_zero : kind.height ≠ 0 ↔ ∀ action, kind ≠ .action action := by
  cases kind <;> simp [height]

end NodeKind

/-! ## The walk as a list -/

/-- Only the kinds down to an action make up a command. -/
theorem Command.of?_eq_none {above : List NodeKind} {kind : NodeKind} (high : kind.height ≠ 0)
    (leaf : Json) : Command.of? (above ++ [kind]) leaf = none := by
  rw [Command.of?.eq_def]
  split
  case h_1 kinds =>
    have last := congrArg List.getLast? kinds
    simp only [List.getLast?_append, List.getLast?_singleton] at last
    cases last
    exact absurd rfl high
  case h_2 => rfl

namespace Found

/-- What some visits amount to: the commands in front of the first misplaced node, and
whether there is one. -/
def ofVisits (visits : List Visit) : Found :=
  ⟨(visits.takeWhile Visit.placed).filterMap Visit.command?, visits.any fun visit => !visit.placed⟩

theorem ofVisits_of_placed {visit : Visit} (placed : visit.placed = true) (visits : List Visit) :
    ofVisits (visit :: visits) =
      ⟨visit.command?.toList ++ (ofVisits visits).commands, (ofVisits visits).misplaced⟩ := by
  cases command : visit.command? <;> simp [ofVisits, placed, command]

theorem ofVisits_of_misplaced {visit : Visit} (misplaced : visit.placed = false)
    (visits : List Visit) : ofVisits (visit :: visits) = stop := by
  simp [ofVisits, misplaced, stop]

theorem ofVisits_append (visits more : List Visit) :
    ofVisits (visits ++ more) = (ofVisits visits).andThen fun _ => ofVisits more := by
  induction visits with
  | nil => rfl
  | cons visit visits ih =>
    rw [List.cons_append]
    cases placed : visit.placed with
    | false =>
      rw [ofVisits_of_misplaced placed, ofVisits_of_misplaced placed]
      rfl
    | true =>
      rw [ofVisits_of_placed placed, ofVisits_of_placed placed, ih, andThen, andThen]
      split <;> simp_all

/-- Walking nodes one after the other visits what each of them leads to. -/
theorem walk_ofVisits (visits : Node → List Visit) (nodes : List Node) :
    walk (fun node => ofVisits (visits node)) nodes = ofVisits (nodes.flatMap visits) := by
  induction nodes with
  | nil => rfl
  | cons node rest ih => rw [walk, ih, List.flatMap_cons, ofVisits_append]

end Found

namespace Node

variable {document : Json} {node : Node} {group : CommandGroup} {recipient : Recipient}
  {channel : Channel}

/-- Nothing is found from a node that stands at a level other than its own. -/
theorem ofVisits_of_misplaced {height : Nat} (misplaced : node.kind.height ≠ height)
    (above : List NodeKind) (found : Option Json) :
    Found.ofVisits (node.visits height above found) = .stop := by
  cases height with
  | zero => exact Found.ofVisits_of_misplaced (by simpa [Visit.placed] using misplaced) _
  | succ height => exact Found.ofVisits_of_misplaced (by simpa [Visit.placed] using misplaced) _

/-- A node in its place above the lowest level leads on to its children, when the document
has its name. -/
theorem ofVisits_of_inner {height : Nat} (placed : node.kind.height = height + 1)
    (above : List NodeKind) (found : Option Json) :
    Found.ofVisits (node.visits (height + 1) above found) =
      found.elim .nothing fun inner => Found.walk
        (fun child => Found.ofVisits
          (child.visits height (above ++ [node.kind]) (inner.select? child.key)))
        node.children := by
  have inPlace : Visit.placed ⟨height + 1, above, node.kind, found⟩ = true :=
    beq_iff_eq.mpr placed
  rw [visits, if_pos placed, Found.ofVisits_of_placed inPlace]
  cases found with
  | none => rfl
  | some inner =>
    have silent : Visit.command? ⟨height + 1, above, node.kind, some inner⟩ = none :=
      Command.of?_eq_none (by rw [placed]; exact Nat.succ_ne_zero height) inner
    rw [silent, Option.elim_some, Option.elim_some, Found.walk_ofVisits]
    rfl

theorem below_eq_elim (visit : Json → Found) :
    Found.below document node visit = (document.select? node.key).elim .nothing visit := by
  rw [Found.below]
  cases document.select? node.key <;> rfl

theorem searchAction_walks :
    searchAction group recipient channel document = fun node =>
      Found.ofVisits (node.visits 0 [.group group, .recipient recipient, .channel channel]
        (document.select? node.key)) := by
  funext node
  cases kind : node.kind with
  | action action =>
    simp only [searchAction, kind, below_eq_elim]
    cases document.select? node.key <;>
      simp [visits, Found.ofVisits, Visit.placed, Visit.command?, Command.of?, kind,
        NodeKind.height, Found.nothing]
  | group | recipient | channel =>
    rw [ofVisits_of_misplaced (by rw [kind]; exact Nat.succ_ne_zero _)]
    simp only [searchAction, kind]

theorem searchChannel_walks :
    searchChannel group recipient document = fun node =>
      Found.ofVisits (node.visits 1 [.group group, .recipient recipient]
        (document.select? node.key)) := by
  funext node
  cases kind : node.kind with
  | channel channel =>
    rw [ofVisits_of_inner (by rw [kind]; rfl), kind]
    simp only [searchChannel, kind, below_eq_elim, searchAction_walks]
    rfl
  | group | recipient | action =>
    rw [ofVisits_of_misplaced (by rw [kind]; exact of_decide_eq_true rfl)]
    simp only [searchChannel, kind]

theorem searchRecipient_walks :
    searchRecipient group document = fun node =>
      Found.ofVisits (node.visits 2 [.group group] (document.select? node.key)) := by
  funext node
  cases kind : node.kind with
  | recipient recipient =>
    rw [ofVisits_of_inner (by rw [kind]; rfl), kind]
    simp only [searchRecipient, kind, below_eq_elim, searchChannel_walks]
    rfl
  | group | channel | action =>
    rw [ofVisits_of_misplaced (by rw [kind]; exact of_decide_eq_true rfl)]
    simp only [searchRecipient, kind]

theorem search_walks (root : Node) (document : Json) :
    root.search document = Found.ofVisits (root.walk document) := by
  rw [walk]
  cases kind : root.kind with
  | group group =>
    rw [ofVisits_of_inner (by rw [kind]; rfl), kind]
    simp only [search, kind, searchRecipient_walks]
    rfl
  | recipient | channel | action =>
    rw [ofVisits_of_misplaced (by rw [kind]; exact of_decide_eq_true rfl)]
    simp only [search, kind]

/-! ## Misplaced nodes -/

/-- A walk from a node on comes to a misplaced one when this node is misplaced, or when it is
in its place, the document has its name and a child leads to one. -/
theorem exists_misplaced_succ {height : Nat} {above : List NodeKind} {found : Option Json} :
    (∃ visit ∈ node.visits (height + 1) above found, visit.placed = false) ↔
      node.kind.height ≠ height + 1 ∨ node.kind.height = height + 1 ∧
        ∃ inner, found = some inner ∧ ∃ child ∈ node.children,
          ∃ visit ∈ child.visits height (above ++ [node.kind]) (inner.select? child.key),
            visit.placed = false := by
  rw [visits, List.exists_mem_cons_iff]
  by_cases placed : node.kind.height = height + 1
  · cases found with
    | none => simp [Visit.placed, placed]
    | some inner =>
      simp only [Visit.placed, placed, beq_self_eq_true, Bool.true_eq_false, if_true,
        Option.elim_some, List.mem_flatMap, false_or, ne_eq, not_true_eq_false, true_and,
        Option.some.injEq, exists_eq_left']
      constructor
      · rintro ⟨visit, ⟨child, among, visited⟩, misplaced⟩
        exact ⟨child, among, visit, visited, misplaced⟩
      · rintro ⟨child, among, visit, visited, misplaced⟩
        exact ⟨visit, ⟨child, among, visited⟩, misplaced⟩
  · simp [Visit.placed, placed]

theorem exists_misplaced_zero {above : List NodeKind} {found : Option Json} :
    (∃ visit ∈ node.visits 0 above found, visit.placed = false) ↔ node.kind.height ≠ 0 := by
  simp [visits, Visit.placed]

/-- Where a walk comes to a misplaced node. -/
theorem exists_misplaced_iff_astray {root : Node} :
    (∃ visit ∈ root.walk document, visit.placed = false) ↔ root.Astray document := by
  constructor
  · intro misplaced
    obtain level | ⟨-, _, ⟨⟩, top, topAmong, misplaced⟩ := exists_misplaced_succ.mp misplaced
    · exact .root (NodeKind.height_ne_three.mp level)
    obtain level | ⟨level, inner, topNamed, middle, middleAmong, misplaced⟩ :=
      exists_misplaced_succ.mp misplaced
    · exact .recipient topAmong (NodeKind.height_ne_two.mp level)
    obtain ⟨recipient, topKind⟩ := NodeKind.height_eq_two.mp level
    have topSelected := Json.select?_eq_some.mp topNamed
    obtain level | ⟨level, deeper, middleNamed, child, among, misplaced⟩ :=
      exists_misplaced_succ.mp misplaced
    · exact .channel topAmong topKind topSelected middleAmong (NodeKind.height_ne_one.mp level)
    obtain ⟨channel, middleKind⟩ := NodeKind.height_eq_one.mp level
    have level := exists_misplaced_zero.mp misplaced
    exact .action topAmong topKind topSelected middleAmong middleKind
      (Json.select?_eq_some.mp middleNamed) among (NodeKind.height_ne_zero.mp level)
  · intro astray
    by_cases level : root.kind.height = 3
    case neg => exact exists_misplaced_succ.mpr (.inl level)
    refine exists_misplaced_succ.mpr (.inr ⟨level, document, rfl, ?_⟩)
    cases astray with
    | root kind => exact absurd level (NodeKind.height_ne_three.mpr kind)
    | recipient among kind =>
      exact ⟨_, among, exists_misplaced_succ.mpr (.inl (NodeKind.height_ne_two.mpr kind))⟩
    | channel topAmong topKind topNamed among kind =>
      refine ⟨_, topAmong, exists_misplaced_succ.mpr (.inr ?_)⟩
      refine ⟨NodeKind.height_eq_two.mpr ⟨_, topKind⟩, _, Json.select?_eq_some.mpr topNamed, ?_⟩
      exact ⟨_, among, exists_misplaced_succ.mpr (.inl (NodeKind.height_ne_one.mpr kind))⟩
    | action topAmong topKind topNamed middleAmong middleKind middleNamed among kind =>
      refine ⟨_, topAmong, exists_misplaced_succ.mpr (.inr ?_)⟩
      refine ⟨NodeKind.height_eq_two.mpr ⟨_, topKind⟩, _, Json.select?_eq_some.mpr topNamed, ?_⟩
      refine ⟨_, middleAmong, exists_misplaced_succ.mpr (.inr ?_)⟩
      refine ⟨NodeKind.height_eq_one.mpr ⟨_, middleKind⟩, _,
        Json.select?_eq_some.mpr middleNamed, ?_⟩
      exact ⟨_, among, exists_misplaced_zero.mpr (NodeKind.height_ne_zero.mpr kind)⟩

/-! ## What no search looks at -/

/-- A walk comes to the same nodes among siblings that are alike. -/
theorem visits_of_alike {nodes others : List Node} (alike : Alike document nodes others)
    (height : Nat) (above : List NodeKind) :
    (nodes.flatMap fun node => node.visits height above (document.select? node.key)) =
      others.flatMap fun node => node.visits height above (document.select? node.key) := by
  induction alike generalizing height above with
  | nil => rfl
  | action rest ih =>
    rw [List.flatMap_cons, List.flatMap_cons, ih]
    cases height <;> rfl
  | @absent document key kind children different nodes others unnamed rest ih =>
    have missing : document.select? key = none :=
      Option.eq_none_iff_forall_ne_some.mpr fun found named =>
        unnamed found (Json.select?_eq_some.mp named)
    have same (height : Nat) : (Node.node key kind children).visits height above none =
        (Node.node key kind different).visits height above none := by
      cases height <;> rfl
    rw [List.flatMap_cons, List.flatMap_cons, ih, Node.key, Node.key, missing, same]
  | @present document inner key kind children different nodes others named below rest ihBelow ih =>
    have selected : document.select? key = some inner := Json.select?_eq_some.mpr named
    have same (height : Nat) : (Node.node key kind children).visits height above (some inner) =
        (Node.node key kind different).visits height above (some inner) := by
      cases height with
      | zero => rfl
      | succ height =>
        rw [visits, visits, Option.elim_some, Option.elim_some, Node.children, ihBelow]
        rfl
    rw [List.flatMap_cons, List.flatMap_cons, ih, Node.key, Node.key, selected, same]

theorem walk_of_alikeTrees {root other : Node} (alike : AlikeTrees document root other) :
    root.walk document = other.walk document := by
  cases alike with
  | action => rfl
  | children below =>
    rw [walk, walk, visits, visits, Option.elim_some, Option.elim_some, children,
      visits_of_alike below]
    rfl

/-- Searching any tree in any document reports the commands of the depth-first walk up to the
first misplaced node that the walk comes to, and no others. It fails exactly when there is
such a node, and answers with the number of commands otherwise. What stands below actions
and below names that the document lacks does not matter. -/
theorem search_follows_walk (root : Node) (document : Json) :
    let dispatch := Dispatch.ofFound (root.search document)
    dispatch.commands =
        ((root.walk document).takeWhile Visit.placed).filterMap Visit.command? ∧
      ((∃ visit ∈ root.walk document, visit.placed = false) ↔ root.Astray document) ∧
      (root.Astray document → dispatch.result = .error .invalidArgument) ∧
      (¬ root.Astray document → dispatch.result = .ok dispatch.commands.length) ∧
      ∀ other, AlikeTrees document root other →
        Dispatch.ofFound (other.search document) = dispatch := by
  have misplaced : (Found.ofVisits (root.walk document)).misplaced ↔ root.Astray document := by
    rw [← exists_misplaced_iff_astray, Found.ofVisits]
    simp
  rw [search_walks]
  refine ⟨rfl, exists_misplaced_iff_astray, fun astray => ?_, fun inPlace => ?_, ?_⟩
  · exact if_pos (misplaced.mpr astray)
  · exact if_neg (mt misplaced.mp inPlace)
  · intro other alike
    rw [search_walks, walk_of_alikeTrees alike]

/-- An action where a channel belongs ends the walk; the command in front of it is reported. -/
example :
    let broken := Node.node "set" (.group .set) [.node "environment" (.recipient .environment) [
      Vocabulary.channel "humidity" .humidity [Vocabulary.action "enable" .enable],
      Vocabulary.action "temperature" .enable]]
    let document := Json.object [("environment", .object [
      ("humidity", .object [("enable", .bool true)])])]
    let dispatch := Dispatch.ofFound (broken.search document)
    dispatch.commands.map (·.state) = [some true] ∧ dispatch.result = .error .invalidArgument :=
  ⟨rfl, rfl⟩

end Node

/-! ## Trees in order -/

namespace Node

/-- In a tree whose nodes all stand at their levels, no walk comes to a misplaced one. -/
theorem not_astray_of_ordered {root : Node} (inOrder : root.ordered 3) (document : Json) :
    ¬ root.Astray document := by
  have level {height : Nat} {node child : Node} (parent : node.ordered (height + 1))
      (among : child ∈ node.children) : child.ordered height :=
    (children_of_ordered parent).2 child among
  intro astray
  cases astray with
  | root kind => exact NodeKind.height_ne_three.mpr kind (kind_of_ordered inOrder)
  | recipient among kind =>
    exact NodeKind.height_ne_two.mpr kind (kind_of_ordered (level inOrder among))
  | channel topAmong _ _ among kind =>
    have top := level inOrder topAmong
    exact NodeKind.height_ne_one.mpr kind (kind_of_ordered (level top among))
  | action topAmong _ _ middleAmong _ _ among kind =>
    have middle := level (level inOrder topAmong) middleAmong
    exact NodeKind.height_ne_zero.mpr kind (kind_of_ordered (level middle among))

/-- Searching such a tree never fails. -/
theorem result_search_of_ordered {root : Node} (inOrder : root.ordered 3) (document : Json) :
    (Dispatch.ofFound (root.search document)).result =
      .ok (Dispatch.ofFound (root.search document)).commands.length := by
  have placed : (Found.ofVisits (root.walk document)).misplaced = false := by
    have nowhere := mt exists_misplaced_iff_astray.mp (not_astray_of_ordered inOrder document)
    rw [Found.ofVisits, List.any_eq_false]
    intro visit visited
    cases stands : visit.placed with
    | true => exact nofun
    | false => exact absurd ⟨visit, visited, stands⟩ nowhere
  rw [search_walks, Dispatch.ofFound, placed]
  rfl

end Node

namespace Codec

/-- How decoding some bytes goes, whoever the handler is: the commands that it is handed one
by one, and the answer. -/
structure Decoded (input : Bytes) (commands : List Command) (answer : Except CodecError Nat) :
    Prop where
  handed : ∀ (σ : Type) (codec : Codec σ), codec.decode input = (answer, codec.receiveAll commands)
  /-- The answer is the number of commands, or a fault without any command. -/
  whole : answer = .ok commands.length ∨ commands = [] ∧ ∃ fault, answer = .error fault
  /-- It is a fault exactly when the bytes spell no document. -/
  failed : (∃ fault, answer = .error fault) ↔ Json.ofBytes? input = none
  empty : answer = .error .invalidArgument ↔ input = []
  malformed : answer = .error .malformed ↔ input ≠ [] ∧ Json.ofBytes? input = none
  /-- A codec that failed to decode is as it was. -/
  kept : ∀ fault, answer = .error fault →
    ∀ (σ : Type) (codec : Codec σ), (codec.decode input).2 = codec

/-- Bytes that spell no document are answered with a fault, and nothing is handed on. -/
theorem decode_of_unreadable {input : Bytes} (unreadable : Json.ofBytes? input = none) {σ : Type}
    (codec : Codec σ) :
    codec.decode input =
      (.error (if input = [] then .invalidArgument else .malformed), codec) := by
  cases input with
  | nil => rfl
  | cons first rest => simp [decode, Dispatch.ofBytes, unreadable]

theorem decoded_of_spelled {input : Bytes} {document : Json}
    (spelled : Json.ofBytes? input = some document) :
    Decoded input (document.contributions [] Vocabulary.paths)
      (.ok (document.contributions [] Vocabulary.paths).length) where
  handed _ codec := decode_eq spelled codec
  whole := .inl rfl
  failed := by simp [spelled]
  empty := by
    refine iff_of_false nofun ?_
    rintro rfl
    cases Json.ofBytes?_nil ▸ spelled
  malformed := by simp [spelled]
  kept := nofun

theorem decoded_of_unreadable {input : Bytes} (unreadable : Json.ofBytes? input = none) :
    Decoded input [] (.error (if input = [] then .invalidArgument else .malformed)) where
  handed _ codec := decode_of_unreadable unreadable codec
  whole := .inr ⟨rfl, _, rfl⟩
  failed := by simp [unreadable]
  empty := by split <;> simp_all
  malformed := by split <;> simp_all
  kept _ _ _ codec := by rw [decode_of_unreadable unreadable codec]

/-- Decoding is all or nothing: either the handler is handed as many commands as the answer
says, or none, and then the codec is as before. It fails on empty input and on what is no
document, and on nothing else, since no document leads a search of the vocabulary to a
misplaced node. -/
theorem decode_all_or_nothing (input : Bytes) :
    (∃ commands answer, Decoded input commands answer) ∧
      ∀ group document, ¬ (Vocabulary.tree group).Astray document ∧
        (Dispatch.ofFound ((Vocabulary.tree group).search document)).result =
          .ok (Dispatch.ofFound ((Vocabulary.tree group).search document)).commands.length := by
  constructor
  · cases spelled : Json.ofBytes? input with
    | none => exact ⟨_, _, decoded_of_unreadable spelled⟩
    | some document => exact ⟨_, _, decoded_of_spelled spelled⟩
  · intro group document
    have inOrder := Vocabulary.tree_ordered group
    exact ⟨Node.not_astray_of_ordered inOrder document,
      Node.result_search_of_ordered inOrder document⟩

/-- A document that is cut off behind a command asks for nothing. -/
example :
    (keepingList.decode (mixedCase.take 50)).1 = .error .malformed ∧
      (keepingList.decode (mixedCase.take 50)).2.state = [] ∧
      (keepingList.decode []).1 = .error .invalidArgument := by
  decide +kernel

end Codec

end Uplink
