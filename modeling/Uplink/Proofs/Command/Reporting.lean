import Uplink.Command.Codec
import Uplink.Proofs.Json.Numerals

/-!
# The commands of a document

A vocabulary is a tree of names. Read as a list it is its leaf paths, each the names from
the root to a leaf with what they stand for, in the order in which the tree declares them.
`Reported` runs through such a list and says what a document contributes to each path.
Decoding a document hands the handler exactly the commands that are reported for the
vocabulary of readings and then for that of settings.
-/

namespace Uplink

/-- The names from the root of a command tree to one of its leaves, each with what it
stands for. -/
abbrev LeafPath := List (String × NodeKind)

namespace LeafPath

/-- The names along a path. -/
def names (path : LeafPath) : List String := path.map (·.1)

/-- What the names along a path stand for. -/
def kinds (path : LeafPath) : List NodeKind := path.map (·.2)

@[simp] theorem names_cons (name : String) (kind : NodeKind) (path : LeafPath) :
    names ((name, kind) :: path) = name :: path.names := rfl

@[simp] theorem kinds_cons (name : String) (kind : NodeKind) (path : LeafPath) :
    kinds ((name, kind) :: path) = kind :: path.kinds := rfl

/-- A path that leads from a group over a recipient and a channel to an action. -/
def Complete (path : LeafPath) : Prop :=
  ∃ group recipient channel action,
    path.kinds = [.group group, .recipient recipient, .channel channel, .action action]

end LeafPath

namespace Node

mutual

/-- The leaf paths of a tree in the order of declaration. -/
def paths : Node → List LeafPath
  | .node key kind [] => [[(key, kind)]]
  | .node key kind (child :: rest) => (child.paths ++ pathsOfAll rest).map ((key, kind) :: ·)

/-- The leaf paths of several trees, one tree after the other. -/
def pathsOfAll : List Node → List LeafPath
  | [] => []
  | first :: rest => first.paths ++ pathsOfAll rest

end

theorem pathsOfAll_eq_flatMap (nodes : List Node) : pathsOfAll nodes = nodes.flatMap paths := by
  induction nodes with
  | nil => rw [pathsOfAll, List.flatMap_nil]
  | cons first rest ih => rw [pathsOfAll, ih, List.flatMap_cons]

theorem paths_of_leaf {node : Node} (leaf : node.children = []) :
    node.paths = [[]].map ((node.key, node.kind) :: ·) := by
  obtain ⟨key, kind, children⟩ := node
  obtain rfl : children = [] := leaf
  rw [paths, List.map_singleton, Node.key, Node.kind]

theorem paths_of_inner {node : Node} (inner : node.children ≠ []) :
    node.paths = (node.children.flatMap paths).map ((node.key, node.kind) :: ·) := by
  obtain ⟨key, kind, children⟩ := node
  cases children with
  | nil => exact absurd rfl inner
  | cons child rest =>
    rw [paths, pathsOfAll_eq_flatMap, Node.children, List.flatMap_cons, Node.key, Node.kind]

end Node

/-! ## What a document contributes -/

/-- The command that a path amounts to when its names reach a value: the meanings of the
names, with a value for a number and a state for a truth value. -/
structure Command.Answers (path : LeafPath) (leaf : Json) (command : Command) : Prop where
  kinds : path.kinds = [.group command.group, .recipient command.recipient,
    .channel command.channel, .action command.action]
  value : command.value = leaf.toDouble?
  numeric : command.value.isSome ↔ ∃ literal, leaf = .number literal
  state : command.state = leaf.toBool?
  boolean : command.state.isSome ↔ ∃ truth, leaf = .bool truth

/-- The commands that a document contributes to some paths, in the order of the paths: one
for each path whose names reach a value, none for the others. -/
inductive Reported (document : Json) : List LeafPath → List Command → Prop
  | nil : Reported document [] []
  | absent {path : LeafPath} {paths : List LeafPath} {commands : List Command}
      (unreached : ∀ leaf, ¬ document.Reaches path.names leaf)
      (others : Reported document paths commands) :
      Reported document (path :: paths) commands
  | present {path : LeafPath} {paths : List LeafPath} {leaf : Json} {command : Command}
      {commands : List Command} (reached : document.Reaches path.names leaf)
      (answers : command.Answers path leaf) (others : Reported document paths commands) :
      Reported document (path :: paths) (command :: commands)

theorem Command.Answers.unique {path : LeafPath} {leaf : Json} {command other : Command}
    (answers : command.Answers path leaf) (also : other.Answers path leaf) : command = other := by
  obtain ⟨group, recipient, channel, action, value, state⟩ := command
  obtain ⟨otherGroup, otherRecipient, otherChannel, otherAction, otherValue, otherState⟩ := other
  have kinds := answers.kinds.symm.trans also.kinds
  have values := answers.value.trans also.value.symm
  have states := answers.state.trans also.state.symm
  simp_all

/-- A document contributes one sequence of commands only. -/
theorem Reported.unique {document : Json} {paths : List LeafPath} {commands others : List Command}
    (reported : Reported document paths commands) (also : Reported document paths others) :
    commands = others := by
  induction reported generalizing others with
  | nil =>
    cases also
    rfl
  | absent unreached _ ih =>
    cases also with
    | absent _ rest => exact ih rest
    | present reached _ _ => exact absurd reached (unreached _)
  | present reached answers _ ih =>
    cases also with
    | absent unreached _ => exact absurd reached (unreached _)
    | present alsoReached alsoAnswers rest =>
      obtain rfl := reached.unique alsoReached
      rw [answers.unique alsoAnswers, ih rest]

/-- The command of four kinds at a value, if they are in the order of the levels. -/
def Command.of? (kinds : List NodeKind) (leaf : Json) : Option Command :=
  match kinds with
  | [.group group, .recipient recipient, .channel channel, .action action] =>
    some { group, recipient, channel, action, value := leaf.toDouble?, state := leaf.toBool? }
  | _ => none

/-- What a document contributes to paths that go on from some kinds above. -/
def Json.contributions (document : Json) (above : List NodeKind) (paths : List LeafPath) :
    List Command :=
  paths.filterMap fun path =>
    (document.follow? path.names).bind (Command.of? (above ++ path.kinds))

namespace Json

@[simp] theorem contributions_append (document : Json) (above : List NodeKind)
    (paths others : List LeafPath) : document.contributions above (paths ++ others) =
      document.contributions above paths ++ document.contributions above others :=
  List.filterMap_append

theorem contributions_flatMap {α : Type} (document : Json) (above : List NodeKind)
    (items : List α) (paths : α → List LeafPath) :
    document.contributions above (items.flatMap paths) =
      items.flatMap fun item => document.contributions above (paths item) :=
  List.filterMap_flatMap

/-- Paths that begin with one name contribute what they do in the value of that name. -/
theorem contributions_map_cons (document : Json) (above : List NodeKind) (name : String)
    (kind : NodeKind) (paths : List LeafPath) :
    document.contributions above (paths.map ((name, kind) :: ·)) =
      (document.select? name).elim [] (·.contributions (above ++ [kind]) paths) := by
  rw [contributions, List.filterMap_map]
  cases selected : document.select? name <;> simp [contributions, Function.comp_def, selected]

/-- What a document contributes to complete paths is what is reported for them. -/
theorem reported_contributions {document : Json} (denotes : document.Denotes)
    {paths : List LeafPath} (complete : ∀ path ∈ paths, path.Complete) :
    Reported document paths (document.contributions [] paths) := by
  induction paths with
  | nil => exact .nil
  | cons path paths ih =>
    obtain ⟨⟨group, recipient, channel, action, kinds⟩, others⟩ :=
      List.forall_mem_cons.mp complete
    cases followed : document.follow? path.names with
    | none =>
      have skipped : document.contributions [] (path :: paths) =
          document.contributions [] paths := by
        simp [contributions, followed]
      rw [skipped]
      refine .absent (fun leaf reached => ?_) (ih others)
      cases followed.symm.trans (follow?_eq_some.mpr reached)
    | some leaf =>
      have reached := follow?_eq_some.mp followed
      let command : Command :=
        { group, recipient, channel, action, value := leaf.toDouble?, state := leaf.toBool? }
      have taken : document.contributions [] (path :: paths) =
          command :: document.contributions [] paths := by
        simp [contributions, followed, kinds, Command.of?, command]
      rw [taken]
      exact .present reached ⟨kinds, rfl, (denotes.of_reaches reached).toDouble?_isSome, rfl,
        toBool?_isSome⟩ (ih others)

end Json

/-! ## The walk -/

/-- Visits that all report something report it node after node. -/
theorem Found.walk_of_forall {visit : Node → Found} {report : Node → List Command}
    {nodes : List Node} (each : ∀ node ∈ nodes, visit node = ⟨report node, false⟩) :
    Found.walk visit nodes = ⟨nodes.flatMap report, false⟩ := by
  induction nodes with
  | nil => rfl
  | cons node rest ih =>
    obtain ⟨first, others⟩ := List.forall_mem_cons.mp each
    simp [walk, andThen, first, ih others]

/-- How many levels stand below the one at which a kind belongs. -/
def NodeKind.height : NodeKind → Nat
  | .group _ => 3
  | .recipient _ => 2
  | .channel _ => 1
  | .action _ => 0

namespace Node

/-- Every node of a tree of some height stands at the level of its kind, and the leaves
are the nodes of the lowest level. -/
def ordered : (height : Nat) → (root : Node) → Bool
  | 0, root => root.kind.height == 0 && root.children.isEmpty
  | height + 1, root => root.kind.height == height + 1 && !root.children.isEmpty &&
      root.children.all (ordered height)

theorem kind_of_ordered {height : Nat} {node : Node} (inOrder : node.ordered height) :
    node.kind.height = height := by
  cases height <;> simp_all [ordered]

theorem children_of_ordered {height : Nat} {node : Node} (inOrder : node.ordered (height + 1)) :
    node.children ≠ [] ∧ ∀ child ∈ node.children, child.ordered height := by
  simp_all [ordered]

theorem leaf_of_ordered {node : Node} (inOrder : node.ordered 0) : node.children = [] := by
  simp_all [ordered]

variable {document : Json} {node : Node} {group : CommandGroup} {recipient : Recipient}
  {channel : Channel}

/-- A visit below a name reports the paths through that name when it reports what comes
after the name. -/
theorem below_of_split {above : List NodeKind} {visit : Json → Found} {rests : List LeafPath}
    (split : node.paths = rests.map ((node.key, node.kind) :: ·))
    (each : ∀ value, visit value = ⟨value.contributions (above ++ [node.kind]) rests, false⟩) :
    Found.below document node visit = ⟨document.contributions above node.paths, false⟩ := by
  rw [Found.below, split, Json.contributions_map_cons]
  cases document.select? node.key with
  | none => rfl
  | some value => exact each value

/-- A visit below the name of a branch reports the paths of the branch when it reports
those of its children. -/
theorem below_of_children {above : List NodeKind} {visit : Node → Json → Found}
    (inner : node.children ≠ [])
    (each : ∀ child ∈ node.children, ∀ value, visit child value =
      ⟨value.contributions (above ++ [node.kind]) child.paths, false⟩) :
    Found.below document node (fun value => Found.walk (visit · value) node.children) =
      ⟨document.contributions above node.paths, false⟩ :=
  below_of_split (paths_of_inner inner) fun value => by
    rw [Json.contributions_flatMap]
    exact Found.walk_of_forall fun child among => each child among value

theorem searchAction_eq (inOrder : node.ordered 0) :
    searchAction group recipient channel document node =
      ⟨document.contributions [.group group, .recipient recipient, .channel channel] node.paths,
        false⟩ := by
  have level := kind_of_ordered inOrder
  rw [searchAction]
  split
  case h_1 action isAction =>
    refine below_of_split (paths_of_leaf (leaf_of_ordered inOrder)) fun leaf => ?_
    rw [isAction]
    rfl
  case h_2 other => cases kind : node.kind <;> simp_all [NodeKind.height]

theorem searchChannel_eq (inOrder : node.ordered 1) :
    searchChannel group recipient document node =
      ⟨document.contributions [.group group, .recipient recipient] node.paths, false⟩ := by
  have level := kind_of_ordered inOrder
  obtain ⟨inner, lower⟩ := children_of_ordered inOrder
  rw [searchChannel]
  split
  case h_1 channel isChannel =>
    refine below_of_children inner fun child among value => ?_
    rw [isChannel]
    exact searchAction_eq (lower child among)
  case h_2 other => cases kind : node.kind <;> simp_all [NodeKind.height]

theorem searchRecipient_eq (inOrder : node.ordered 2) :
    searchRecipient group document node =
      ⟨document.contributions [.group group] node.paths, false⟩ := by
  have level := kind_of_ordered inOrder
  obtain ⟨inner, lower⟩ := children_of_ordered inOrder
  rw [searchRecipient]
  split
  case h_1 recipient isRecipient =>
    refine below_of_children inner fun child among value => ?_
    rw [isRecipient]
    exact searchChannel_eq (lower child among)
  case h_2 other => cases kind : node.kind <;> simp_all [NodeKind.height]

/-- A tree in order finds what its leaf paths contribute. -/
theorem ofTree_eq (inOrder : node.ordered 3) :
    Dispatch.ofTree node document = ⟨document.contributions [] node.paths, false⟩ := by
  have level := kind_of_ordered inOrder
  obtain ⟨inner, lower⟩ := children_of_ordered inOrder
  cases kind : node.kind with
  | group group =>
    have searched : node.search = fun value =>
        Found.walk (searchRecipient group value) node.children := by
      funext value
      rw [search, kind]
    rw [Dispatch.ofTree, searched]
    refine below_of_children inner fun child among value => ?_
    rw [kind]
    exact searchRecipient_eq (lower child among)
  | _ => simp_all [NodeKind.height]

/-- The kinds along the leaf paths of a tree in order stand one level below the other. -/
theorem heights_of_mem {height : Nat} (inOrder : node.ordered height) {path : LeafPath}
    (listed : path ∈ node.paths) :
    path.kinds.map NodeKind.height = (List.range (height + 1)).reverse := by
  induction height generalizing node path with
  | zero =>
    rw [paths_of_leaf (leaf_of_ordered inOrder)] at listed
    obtain rfl := List.mem_singleton.mp listed
    simp [LeafPath.kinds, kind_of_ordered inOrder]
  | succ height ih =>
    obtain ⟨inner, lower⟩ := children_of_ordered inOrder
    rw [paths_of_inner inner] at listed
    obtain ⟨rest, below, rfl⟩ := List.mem_map.mp listed
    obtain ⟨child, among, ofChild⟩ := List.mem_flatMap.mp below
    rw [LeafPath.kinds_cons, List.map_cons, ih (lower child among) ofChild,
      kind_of_ordered inOrder]
    simp [List.range_succ]

/-- Every leaf path of a tree in order leads from a group to an action. -/
theorem complete_of_mem (inOrder : node.ordered 3) {path : LeafPath}
    (listed : path ∈ node.paths) : path.Complete := by
  have heights : path.kinds.map NodeKind.height = [3, 2, 1, 0] := heights_of_mem inOrder listed
  match kinds : path.kinds with
  | [first, second, third, fourth] =>
    rw [kinds] at heights
    cases first <;> cases second <;> cases third <;> cases fourth <;> simp_all [NodeKind.height]
    exact ⟨_, _, _, _, kinds⟩
  | [] | [_] | [_, _] | [_, _, _] | _ :: _ :: _ :: _ :: _ :: _ => simp_all

end Node

namespace Vocabulary

/-- The leaf paths of the vocabulary, readings before settings. -/
def paths : List LeafPath := getCommands.paths ++ setCommands.paths

theorem tree_ordered (group : CommandGroup) : (tree group).ordered 3 := by
  cases group <;> decide

theorem complete_of_mem {path : LeafPath} (listed : path ∈ paths) : path.Complete := by
  rcases List.mem_append.mp listed with reading | setting
  · exact Node.complete_of_mem (tree_ordered .get) reading
  · exact Node.complete_of_mem (tree_ordered .set) setting

/-- No two leaf paths have the same names. -/
theorem names_nodup : (paths.map LeafPath.names).Nodup := by
  decide +kernel

/-- The walk over the two trees finds what the leaf paths contribute. -/
theorem ofJson_eq (document : Json) :
    Dispatch.ofJson document =
      ⟨document.contributions [] paths, .ok (document.contributions [] paths).length⟩ := by
  have walked : Found.walk (Dispatch.ofTree · document) (groups.map tree) =
      ⟨(groups.map tree).flatMap fun root => document.contributions [] root.paths, false⟩ := by
    refine Found.walk_of_forall ?_
    simp only [List.forall_mem_map]
    exact fun group _ => Node.ofTree_eq (tree_ordered group)
  rw [Dispatch.ofJson, walked, Dispatch.ofFound]
  simp [groups, paths, tree]

end Vocabulary

theorem Json.ofBytes?_nil : Json.ofBytes? [] = none := by
  cases spelled : Json.ofBytes? [] with
  | none => rfl
  | some document =>
    obtain ⟨text, decoded, parsed⟩ := Option.bind_eq_some_iff.mp spelled
    have empty : text = "" := by
      simpa using congrArg List.length (Utf8.encode_of_decode? decoded)
    subst empty
    cases parsed

namespace Codec

variable {σ : Type}

/-- Hand some commands to the handler, one after the other. -/
def receiveAll (codec : Codec σ) (commands : List Command) : Codec σ :=
  { codec with
    state := commands.foldl (fun state command => codec.receive command state) codec.state }

theorem decode_eq {input : Bytes} {document : Json} (spelled : Json.ofBytes? input = some document)
    (codec : Codec σ) :
    codec.decode input = (.ok (document.contributions [] Vocabulary.paths).length,
      codec.receiveAll (document.contributions [] Vocabulary.paths)) := by
  have nonempty : input.isEmpty = false := by
    cases input with
    | nil => cases Json.ofBytes?_nil ▸ spelled
    | cons => rfl
  have dispatched : Dispatch.ofBytes input = Dispatch.ofJson document := by
    rw [Dispatch.ofBytes, nonempty, spelled]
    rfl
  rw [decode, dispatched, Vocabulary.ofJson_eq, receiveAll]

/-- Decoding any document hands the handler, one by one, exactly the commands that the
document contributes to the leaf paths of the vocabulary, and answers with their number. There
is one sequence of such commands only. -/
theorem decode_reports {input : Bytes} {document : Json}
    (spelled : Json.ofBytes? input = some document) (codec : Codec σ) :
    (∃ commands, Reported document Vocabulary.paths commands ∧
      (∀ others, Reported document Vocabulary.paths others → others = commands) ∧
      codec.decode input = (.ok commands.length, codec.receiveAll commands)) ∧
      (Vocabulary.paths.map LeafPath.names).Nodup := by
  have reported : Reported document Vocabulary.paths (document.contributions [] Vocabulary.paths) :=
    document.reported_contributions (Json.denotes_of_ofBytes? spelled)
      fun path => Vocabulary.complete_of_mem
  refine ⟨⟨_, reported, fun others also => also.unique reported, decode_eq spelled codec⟩,
    Vocabulary.names_nodup⟩

/-- A handler that keeps a list of what it is asked to do. -/
def keepingList : Codec (List (CommandAction × Option Bool)) where
  receive command entries := entries ++ [(command.action, command.state)]
  state := []

/-- A document that spells its keys in either case; of the two keys for one action, the
exact one comes last. -/
def mixedCase : Bytes := Utf8.encode
  "\x7b\"SET\":\x7b\"Ui\":\x7b\"pin\":\x7b\"ENABLE\":false,\"enable\":true\x7d\x7d\x7d\x7d"

/-- The document asks for one command, and the exact key gives its truth value. -/
theorem keepingList_reports_mixedCase :
    (∃ document, Json.ofBytes? mixedCase = some document ∧
      (∃ commands, Reported document Vocabulary.paths commands ∧
        (∀ others, Reported document Vocabulary.paths others → others = commands) ∧
        keepingList.decode mixedCase =
          (.ok commands.length, keepingList.receiveAll commands)) ∧
      (Vocabulary.paths.map LeafPath.names).Nodup) ∧
    (keepingList.decode mixedCase).2.state = [(.enable, some true)] := by
  obtain ⟨document, spelled⟩ : ∃ document, Json.ofBytes? mixedCase = some document :=
    Option.isSome_iff_exists.mp (by decide +kernel)
  exact ⟨⟨document, spelled, decode_reports spelled keepingList⟩, by decide +kernel⟩

end Codec

end Uplink
