import Switchboard.Proofs.Tree.History
import Switchboard.Proofs.Tree.Ways
import Switchboard.Tree.Usage

/-!
# Trees that extend others

A usage string depends on the settings of a tree and on the places of the nodes above, and no step
of the assembly changes either of them. The one thing that a step can change about a usage is to put
another handler in the place of the one that has it.
-/

namespace Switchboard

variable {Action : Type}

/-- The codes of a node at a place. -/
def Place.codes : Place → List String
  | root => []
  | below _ codes => codes

namespace CommandTree

/-- A tree in which another one is still found, with the same settings and places. -/
structure Extends (next tree : CommandTree Action) : Prop where
  settings_eq : next.settings = tree.settings
  place_eq : ∀ {id old}, tree.node? id = some old →
    ∃ node, next.node? id = some node ∧ node.place = old.place

variable {tree next last : CommandTree Action} {id : NodeId} {node old : CommandNode Action}

theorem Extends.refl (tree : CommandTree Action) : tree.Extends tree :=
  ⟨rfl, fun known => ⟨_, known, rfl⟩⟩

theorem Extends.trans (later : last.Extends next) (earlier : next.Extends tree) :
    last.Extends tree := by
  refine ⟨later.settings_eq.trans earlier.settings_eq, ?_⟩
  intro id old oldEq
  rcases earlier.place_eq oldEq with ⟨middle, middleEq, middlePlace⟩
  rcases later.place_eq middleEq with ⟨node, nodeEq, nodePlace⟩
  exact ⟨node, nodeEq, nodePlace.trans middlePlace⟩

theorem ChildAdded.extends {parent child : NodeId} {declaration : NodeDeclaration}
    {parentNode : CommandNode Action}
    (added : ChildAdded tree next parent child declaration parentNode) : next.Extends tree :=
  ⟨added.settings_eq, added.place_kept⟩

theorem HandlerPlaced.extends {host : NodeId} {arity : Nat} {handler : Handler Action}
    {hostNode : CommandNode Action}
    (placed : HandlerPlaced tree next host arity handler hostNode) : next.Extends tree :=
  ⟨placed.settings_eq, placed.place_kept⟩

theorem extends_build (tree : CommandTree Action) (steps : List (BuildStep Action)) :
    (tree.build steps).Extends tree := by
  have kept {current later : CommandTree Action} {history : History Action}
      {addition : Addition Action} (extendsTree : current.Extends tree)
      (made : addition.Made current later) : later.Extends tree := by
    cases addition with
    | child id parent declaration =>
      rcases made with ⟨_, added⟩
      exact added.extends.trans extendsTree
    | handler host declaration action =>
      rcases made with ⟨_, placed⟩
      exact placed.extends.trans extendsTree
  exact @build_keeps _ (fun later _ => later.Extends tree) @kept tree [] (.refl tree) steps

theorem Extends.same_place (kept : next.Extends tree) (oldEq : tree.node? id = some old)
    (nodeEq : next.node? id = some node) : node.place = old.place := by
  rcases kept.place_eq oldEq with ⟨known, knownEq, samePlace⟩
  rw [nodeEq, Option.some.injEq] at knownEq
  rw [knownEq]
  exact samePlace

/-- The way up from a node passes the same places. -/
theorem Extends.lineageWithin_places (kept : next.Extends tree) (wellFormed : tree.WellFormed)
    {steps more : Nat} (oldEq : tree.node? id = some old) (nodeEq : next.node? id = some node)
    (enough : id.index < steps) (moreEnough : id.index < more) :
    (next.lineageWithin more node).map CommandNode.place =
      (tree.lineageWithin steps old).map CommandNode.place := by
  -- A parent comes earlier than its child, so one step fewer is enough for it.
  induction steps generalizing more id node old with
  | zero => omega
  | succ steps ih =>
    cases more with
    | zero => omega
    | succ more =>
      have samePlace := kept.same_place oldEq nodeEq
      have sameParent : node.parent? = old.parent? := by
        rw [CommandNode.parent?, CommandNode.parent?, samePlace]
      rw [lineageWithin, lineageWithin, List.map_cons, List.map_cons, samePlace, sameParent]
      congr 1
      by_cases isRoot : id = .root
      · rw [(wellFormed.parent?_eq_none_iff oldEq).mpr isRoot]
        rfl
      · rcases wellFormed.parent?_eq oldEq isRoot with
          ⟨parent, parentOld, parentIdEq, earlier, parentEq⟩
        rcases kept.place_eq parentEq with ⟨parentNode, parentNodeEq, _⟩
        rw [parentIdEq, Option.bind_some, Option.bind_some, parentEq, parentNodeEq]
        exact ih parentEq parentNodeEq (by omega) (by omega)

theorem Extends.lineage_places (kept : next.Extends tree) (wellFormed : tree.WellFormed)
    (oldEq : tree.node? id = some old) (nodeEq : next.node? id = some node) :
    (next.lineage node).map CommandNode.place = (tree.lineage old).map CommandNode.place :=
  kept.lineageWithin_places wellFormed oldEq nodeEq (lt_size_of_node? oldEq)
    (lt_size_of_node? nodeEq)

theorem nodeUsage_eq_of_places (tree : CommandTree Action) (node : CommandNode Action) :
    tree.nodeUsage node = tree.settings.mainDelimiter.intercalate
      (((tree.lineage node).map CommandNode.place).reverse.map fun place =>
        place.codes.head?.getD tree.settings.lead) := by
  rw [nodeUsage, joinMain, ← List.map_reverse, List.map_map]
  rfl

theorem nodeUsages_eq_of_places (tree : CommandTree Action) (node : CommandNode Action) :
    tree.nodeUsages node =
      (choices ((((tree.lineage node).map CommandNode.place).filter (!· == .root)).map
        Place.codes) []).map fun chosen =>
          tree.settings.mainDelimiter.intercalate (tree.settings.lead :: chosen) := by
  rw [nodeUsages, List.filter_map, List.map_map]
  rfl

/-- The usages of a node are what they were. -/
theorem Extends.nodeUsage_eq (kept : next.Extends tree) (wellFormed : tree.WellFormed)
    (oldEq : tree.node? id = some old) (nodeEq : next.node? id = some node) :
    next.nodeUsage node = tree.nodeUsage old ∧ next.nodeUsages node = tree.nodeUsages old := by
  have places := kept.lineage_places wellFormed oldEq nodeEq
  rw [nodeUsage_eq_of_places, nodeUsage_eq_of_places, nodeUsages_eq_of_places,
    nodeUsages_eq_of_places, places, kept.settings_eq]
  exact ⟨rfl, rfl⟩

/-- The usages of a handler on a known node are what they were. -/
theorem Extends.handlerUsage_eq (kept : next.Extends tree) (wellFormed : tree.WellFormed)
    {handler : Handler Action} (oldEq : tree.node? handler.node = some old) :
    next.handlerUsage handler = tree.handlerUsage handler ∧
      next.handlerUsages handler = tree.handlerUsages handler := by
  rcases kept.place_eq oldEq with ⟨node, nodeEq, _⟩
  rcases kept.nodeUsage_eq wellFormed oldEq nodeEq with ⟨usageEq, usagesEq⟩
  have parametersEq (usage : String) :
      next.withParameters usage handler = tree.withParameters usage handler := by
    rw [withParameters, withParameters, kept.settings_eq]
  simp only [handlerUsage, handlerUsages, oldEq, nodeEq, usageEq, usagesEq, parametersEq,
    and_self]

variable (tree)

/-- The usage of the node at a position. -/
def usageAt? (id : NodeId) : Option String :=
  (tree.node? id).map tree.nodeUsage

/-- All usages of the node at a position. -/
def usagesAt? (id : NodeId) : Option (List String) :=
  (tree.node? id).map tree.nodeUsages

/-- The usage of the handler of a node for a number of arguments. -/
def usageFor? (key : NodeId × Nat) : Option String :=
  (tree.handler? key.1 key.2).map tree.handlerUsage

/-- All usages of the handler of a node for a number of arguments. -/
def usagesFor? (key : NodeId × Nat) : Option (List String) :=
  (tree.handler? key.1 key.2).map tree.handlerUsages

variable {tree}

theorem Extends.usageAt?_eq (kept : next.Extends tree) (wellFormed : tree.WellFormed)
    {id : NodeId} (known : (tree.node? id).isSome) :
    next.usageAt? id = tree.usageAt? id ∧ next.usagesAt? id = tree.usagesAt? id := by
  rcases Option.isSome_iff_exists.mp known with ⟨old, oldEq⟩
  rcases kept.place_eq oldEq with ⟨node, nodeEq, _⟩
  rcases kept.nodeUsage_eq wellFormed oldEq nodeEq with ⟨usageEq, usagesEq⟩
  simp [usageAt?, usagesAt?, oldEq, nodeEq, usageEq, usagesEq]

theorem Extends.usageFor?_eq (kept : next.Extends tree) (wellFormed : tree.WellFormed)
    {key : NodeId × Nat} (known : (tree.handler? key.1 key.2).isSome)
    (same : next.handler? key.1 key.2 = tree.handler? key.1 key.2) :
    next.usageFor? key = tree.usageFor? key ∧ next.usagesFor? key = tree.usagesFor? key := by
  rcases Option.isSome_iff_exists.mp known with ⟨handler, handlerEq⟩
  rcases Option.bind_eq_some_iff.mp handlerEq with ⟨node, nodeEq, onNode⟩
  have hostEq := (wellFormed.handler?_fits nodeEq onNode).1
  rw [← hostEq] at nodeEq
  have usagesEq := kept.handlerUsage_eq wellFormed nodeEq
  rw [usageFor?, usageFor?, usagesFor?, usagesFor?, same, handlerEq, Option.map_some,
    Option.map_some, Option.map_some, Option.map_some, usagesEq.1, usagesEq.2]
  exact ⟨rfl, rfl⟩

theorem ChildAdded.handler?_of_some {parent child : NodeId} {declaration : NodeDeclaration}
    {parentNode : CommandNode Action}
    (added : ChildAdded tree next parent child declaration parentNode) {id : NodeId} {arity : Nat}
    {handler : Handler Action} (handlerEq : tree.handler? id arity = some handler) :
    next.handler? id arity = some handler := by
  rcases Option.bind_eq_some_iff.mp handlerEq with ⟨old, oldEq, onNode⟩
  rcases added.node?_of_node? oldEq with ⟨node, nodeEq, same⟩
  have sameHandlers : node.handlersByArity = old.handlersByArity := by rw [same]
  rw [CommandTree.handler?, nodeEq, Option.bind_some, CommandNode.handler?, sameHandlers]
  exact onNode

theorem HandlerPlaced.handler?_of_ne {host : NodeId} {taken : Nat} {handler : Handler Action}
    {hostNode : CommandNode Action}
    (placed : HandlerPlaced tree next host taken handler hostNode) {id : NodeId} {arity : Nat}
    (other : (id, arity) ≠ (host, taken)) : next.handler? id arity = tree.handler? id arity := by
  rw [CommandTree.handler?, placed.node_eq]
  split
  · rename_i isHost
    subst id
    have different : arity ≠ taken := by
      rintro rfl
      exact other rfl
    rw [CommandTree.handler?, placed.host_eq, Option.bind_some, Option.bind_some,
      CommandNode.handler?, CommandNode.lookup_placeHandler, if_neg different, CommandNode.handler?]
  · rfl

end CommandTree

end Switchboard
