import Switchboard.Proofs.Tree.WellFormed
import Switchboard.Tree.Listing
import Switchboard.Tree.Resolution

/-!
# Ways through a tree

A tree is walked upwards for usage strings and downwards for listings, for paths of codes and for
the resolution of a text. Usage strings and listings are computed with a limit on the number of
nodes that a walk passes. On every tree that assembly can produce the limit is never felt, since
parents come before their children: every walk ends by itself, and it never meets a position that
the tree does not have.
-/

namespace Switchboard

variable {Action : Type}

namespace CommandTree

/-- The way from a node along parent links, which ends at the root. -/
inductive Ancestry (tree : CommandTree Action) :
    CommandNode Action → List (CommandNode Action) → Prop where
  | root {node : CommandNode Action} (isRoot : node.isRoot = true) : Ancestry tree node [node]
  | through {node parentNode : CommandNode Action} {parent : NodeId}
      {way : List (CommandNode Action)} (parentIdEq : node.parent? = some parent)
      (parentEq : tree.node? parent = some parentNode) (onward : Ancestry tree parentNode way) :
      Ancestry tree node (node :: way)

variable {tree : CommandTree Action} {id : NodeId} {node : CommandNode Action}

theorem parent?_of_isRoot (isRoot : node.isRoot = true) :
    node.parent? = none := by
  have placeEq : node.place = .root := by simpa [CommandNode.isRoot] using isRoot
  rw [CommandNode.parent?, placeEq]

theorem WellFormed.isRoot_iff (wellFormed : tree.WellFormed)
    (nodeEq : tree.node? id = some node) :
    node.isRoot = true ↔ id = .root := by
  constructor
  · intro isRoot
    by_contra below
    rcases wellFormed.place_eq nodeEq below with ⟨parent, codes, placeEq, _⟩
    simp [CommandNode.isRoot, placeEq] at isRoot
  · rintro rfl
    rcases wellFormed.root_eq with ⟨root, rootEq, isRoot⟩
    have same : root = node := by simpa [rootEq] using nodeEq
    rw [← same]
    exact isRoot

/-- A node other than the root has an earlier parent, which is in the tree. -/
theorem WellFormed.parent?_eq (wellFormed : tree.WellFormed)
    (nodeEq : tree.node? id = some node)
    (below : id ≠ .root) :
    ∃ parent parentNode, node.parent? = some parent ∧ parent.index < id.index ∧
      tree.node? parent = some parentNode := by
  rcases wellFormed.place_eq nodeEq below with ⟨parent, codes, placeEq, earlier, _⟩
  have inside : (tree.node? parent).isSome := by
    rw [node?_isSome_iff]
    exact Nat.lt_trans earlier (lt_size_of_node? nodeEq)
  rcases Option.isSome_iff_exists.mp inside with ⟨parentNode, parentEq⟩
  exact ⟨parent, parentNode, by rw [CommandNode.parent?, placeEq], earlier, parentEq⟩

theorem WellFormed.parent?_eq_none_iff (wellFormed : tree.WellFormed)
    (nodeEq : tree.node? id = some node) :
    node.parent? = none ↔ id = .root := by
  constructor
  · intro alone
    by_contra below
    rcases wellFormed.parent?_eq nodeEq below with ⟨parent, _, parentIdEq, _⟩
    simp [alone] at parentIdEq
  · intro isRoot
    exact parent?_of_isRoot ((wellFormed.isRoot_iff nodeEq).mpr isRoot)

/-- A walk upwards takes at most as many steps as the position of its node tells. -/
theorem WellFormed.ancestry_lineageWithin (wellFormed : tree.WellFormed) {steps : Nat}
    (nodeEq : tree.node? id = some node) (enough : id.index < steps) :
    tree.Ancestry node (tree.lineageWithin steps node) ∧
      (tree.lineageWithin steps node).length ≤ id.index + 1 := by
  -- A parent comes earlier than its child, so one step fewer is enough for it.
  induction steps generalizing id node with
  | zero => exact absurd enough (Nat.not_lt_zero _)
  | succ steps ih =>
    rw [lineageWithin]
    by_cases isRoot : id = .root
    · have root := (wellFormed.isRoot_iff nodeEq).mpr isRoot
      rw [parent?_of_isRoot root]
      exact ⟨.root root, by simp⟩
    · rcases wellFormed.parent?_eq nodeEq isRoot with
        ⟨parent, parentNode, parentIdEq, earlier, parentEq⟩
      rw [parentIdEq, Option.bind_some, parentEq]
      have fewer : parent.index < steps := by omega
      rcases ih parentEq fewer with ⟨onward, lengthLe⟩
      refine ⟨.through parentIdEq parentEq onward, ?_⟩
      simp only [List.length_cons]
      omega

theorem WellFormed.ancestry_lineage (wellFormed : tree.WellFormed)
    (nodeEq : tree.node? id = some node) :
    tree.Ancestry node (tree.lineage node) ∧ (tree.lineage node).length ≤ id.index + 1 :=
  wellFormed.ancestry_lineageWithin nodeEq (lt_size_of_node? nodeEq)

/-- The children of a node are exactly the nodes that its entries lead to. -/
theorem mem_children_iff {child : CommandNode Action} (nodeEq : tree.node? id = some node) :
    child ∈ tree.children id ↔
      ∃ key childId, (key, childId) ∈ node.children ∧ tree.node? childId = some child := by
  simp only [children, nodeEq, List.mem_mergeSort, List.mem_filterMap, List.mem_eraseDups,
    List.mem_map]
  constructor
  · rintro ⟨childId, ⟨⟨key, _⟩, entryMem, rfl⟩, childEq⟩
    exact ⟨key, _, entryMem, childEq⟩
  · rintro ⟨key, childId, entryMem, childEq⟩
    exact ⟨childId, ⟨(key, childId), entryMem, rfl⟩, childEq⟩

theorem WellFormed.child_later (wellFormed : tree.WellFormed) {child : CommandNode Action}
    (nodeEq : tree.node? id = some node) (childMem : child ∈ tree.children id) :
    tree.node? child.id = some child ∧ id.index < child.id.index := by
  rcases (mem_children_iff nodeEq).mp childMem with ⟨key, childId, entryMem, childEq⟩
  rw [wellFormed.id_eq childEq]
  exact ⟨childEq, (wellFormed.entry_leads nodeEq entryMem).1⟩

/-- No child is left out: every position in an entry is one that the tree has. -/
theorem WellFormed.children_perm (wellFormed : tree.WellFormed)
    (nodeEq : tree.node? id = some node) :
    ((tree.children id).map CommandNode.id).Perm (node.children.map Prod.snd).eraseDups := by
  have known : ∀ child ∈ (node.children.map Prod.snd).eraseDups,
      (tree.node? child).map CommandNode.id = some child := by
    intro child childMem
    rcases List.mem_map.mp (List.mem_eraseDups.mp childMem) with ⟨⟨key, _⟩, entryMem, rfl⟩
    rcases wellFormed.entry_leads nodeEq entryMem with ⟨_, childNode, childNodeEq, _⟩
    rw [childNodeEq, Option.map_some, wellFormed.id_eq childNodeEq]
  have unsorted : ((node.children.map Prod.snd).eraseDups.filterMap tree.node?).map
      CommandNode.id = (node.children.map Prod.snd).eraseDups := by
    rw [List.map_filterMap, List.filterMap_congr known, List.filterMap_some]
  have sorted := (List.mergeSort_perm
    ((node.children.map Prod.snd).eraseDups.filterMap tree.node?) precedes).map CommandNode.id
  rw [unsorted] at sorted
  rw [children, nodeEq]
  exact sorted

/-- A listing looks at no more levels than there are nodes from its node on. -/
theorem WellFormed.handlersWithin_eq (wellFormed : tree.WellFormed) {levels more : Nat}
    (nodeEq : tree.node? id = some node) (enough : tree.size - id.index ≤ levels)
    (moreEnough : tree.size - id.index ≤ more) :
    tree.handlersWithin levels node = tree.handlersWithin more node := by
  have inside := lt_size_of_node? nodeEq
  -- A child comes later than its parent, so fewer nodes are left from it on.
  induction levels generalizing more id node with
  | zero => omega
  | succ levels ih =>
    cases more with
    | zero => omega
    | succ more =>
      rw [handlersWithin, handlersWithin, wellFormed.id_eq nodeEq]
      congr 1
      apply List.flatMap_congr
      intro child childMem
      rcases wellFormed.child_later nodeEq childMem with ⟨childEq, later⟩
      exact ih childEq (by omega) (by omega) (lt_size_of_node? childEq)

/-- The handlers below a node are those of the node and those below its children. -/
theorem WellFormed.allHandlers_eq (wellFormed : tree.WellFormed)
    (nodeEq : tree.node? id = some node) :
    tree.allHandlers node = node.handlers ++ (tree.children id).flatMap tree.allHandlers := by
  calc
    tree.allHandlers node = tree.handlersWithin (tree.size + 1) node :=
      wellFormed.handlersWithin_eq nodeEq (Nat.sub_le _ _) (by omega)
    _ = node.handlers ++ (tree.children id).flatMap tree.allHandlers := by
      rw [handlersWithin, wellFormed.id_eq nodeEq]
      rfl

/-- The node that a path of codes leads to from a node. -/
def findFrom? (tree : CommandTree Action) (id : NodeId) (path : List String) : Option NodeId :=
  path.foldlM (fun current code => (tree.node? current).bind (·.childId? code)) id

theorem findFrom?_cons (tree : CommandTree Action) (id : NodeId) (code : String)
    (path : List String) :
    tree.findFrom? id (code :: path) =
      ((tree.node? id).bind (·.childId? code)).bind (tree.findFrom? · path) := by
  rw [findFrom?, List.foldlM_cons]
  rfl

theorem findFrom?_concat (tree : CommandTree Action) (id : NodeId) (path : List String)
    (code : String) :
    tree.findFrom? id (path ++ [code]) =
      (tree.findFrom? id path).bind fun last => (tree.node? last).bind (·.childId? code) := by
  simp [findFrom?, List.foldlM_append]

/-- A path that leads to a node goes on with the child that answers to the next code. -/
theorem find?_concat (tree : CommandTree Action) (path : List String) (code : String) :
    tree.find? (path ++ [code]) =
      (tree.find? path).bind fun id => (tree.node? id).bind (·.childId? code) :=
  tree.findFrom?_concat .root path code

/-- A path leads to a node of the tree, which does not come before the node where it starts. -/
theorem WellFormed.node?_of_findFrom? (wellFormed : tree.WellFormed) {last : NodeId}
    {path : List String} (nodeEq : tree.node? id = some node)
    (found : tree.findFrom? id path = some last) :
    id.index ≤ last.index ∧ ∃ lastNode, tree.node? last = some lastNode := by
  induction path generalizing id node with
  | nil =>
    have same : id = last := by simpa [findFrom?] using found
    rw [← same]
    exact ⟨Nat.le_refl _, node, nodeEq⟩
  | cons code path ih =>
    rw [findFrom?_cons, nodeEq, Option.bind_some, Option.bind_eq_some_iff] at found
    rcases found with ⟨child, childEq, onward⟩
    rcases wellFormed.childId?_leads nodeEq childEq with ⟨later, childNode, childNodeEq, _⟩
    rcases ih childNodeEq onward with ⟨noEarlier, known⟩
    exact ⟨by omega, known⟩

/-- A path from the root leads to a node of the tree. -/
theorem WellFormed.node?_of_find? (wellFormed : tree.WellFormed) {path : List String}
    (found : tree.find? path = some id) :
    ∃ node, tree.node? id = some node := by
  rcases wellFormed.root_eq with ⟨root, rootEq, _⟩
  exact (wellFormed.node?_of_findFrom? rootEq found).2

/-- The child that a node hands a text over to, with what is left of the text. A text that a handler
of the node answers to is not handed over. -/
def handOver? (tree : CommandTree Action) (delimiter : List Char) (id : NodeId)
    (text : List Char) : Option (NodeId × List Char) :=
  (tree.node? id).bind fun node =>
    if (node.handler? (splitTokens text delimiter node.maxArity?).length).isSome ∨ text = [] then
      none
    else
      (node.childId? (String.ofList (splitFirst text delimiter).1)).map fun child =>
        (child, (splitFirst text delimiter).2)

/-- The answer of a node to a text that it does not hand over. -/
def answerAt (tree : CommandTree Action) (check : ScopeCheck) (channelKind : ChannelKind)
    (delimiter : List Char) (id : NodeId) (text : List Char) : Resolution :=
  match tree.node? id with
  | none => .noMatch
  | some node =>
    let tokens := splitTokens text delimiter node.maxArity?
    match node.handler? tokens.length with
    | some handler =>
      if check handler.scope channelKind then
        .matched id (tokens.map String.ofList)
      else
        .outOfScope id handler.arity ⟨handler.scope.rejection channelKind⟩
    | none => .noMatch

/-- The answer of a tree to a text below a node, unless the text is still handed over at the last
of the given levels. -/
def resolveWithin (tree : CommandTree Action) (check : ScopeCheck) (channelKind : ChannelKind)
    (delimiter : List Char) : Nat → NodeId → List Char → Option Resolution
  | 0, _, _ => none
  | levels + 1, id, text =>
    match tree.handOver? delimiter id text with
    | some (child, rest) => tree.resolveWithin check channelKind delimiter levels child rest
    | none => some (tree.answerAt check channelKind delimiter id text)

/-- A text is resolved where it is handed over to, and otherwise it is answered at once. -/
theorem resolve_eq_handOver? (tree : CommandTree Action) (check : ScopeCheck)
    (channelKind : ChannelKind) (delimiter : List Char) (id : NodeId) (text : List Char) :
    tree.resolve check channelKind delimiter id text =
      match tree.handOver? delimiter id text with
      | some (child, rest) => tree.resolve check channelKind delimiter child rest
      | none => tree.answerAt check channelKind delimiter id text := by
  rw [resolve]
  cases nodeEq : tree.node? id with
  | none => simp [handOver?, answerAt, nodeEq]
  | some node =>
    cases handlerEq : node.handler? (splitTokens text delimiter node.maxArity?).length with
    | some handler => simp [handOver?, answerAt, nodeEq, handlerEq]
    | none =>
      by_cases empty : text = []
      · subst text
        simp [handOver?, answerAt, nodeEq, handlerEq]
      · cases childEq : node.childId? (String.ofList (splitFirst text delimiter).1) with
        | none => simp [handOver?, answerAt, nodeEq, handlerEq, empty, childEq]
        | some child => simp [handOver?, nodeEq, handlerEq, empty, childEq]

/-- A text is handed over to a later node of the tree. -/
theorem WellFormed.handOver?_leads (wellFormed : tree.WellFormed)
    {delimiter text rest : List Char} {child : NodeId}
    (handed : tree.handOver? delimiter id text = some (child, rest)) :
    id.index < child.index ∧ child.index < tree.size := by
  rcases Option.bind_eq_some_iff.mp handed with ⟨node, nodeEq, onward⟩
  split at onward
  · cases onward
  · rcases Option.map_eq_some_iff.mp onward with ⟨named, childEq, same⟩
    rw [Prod.mk.injEq] at same
    rcases same with ⟨rfl, rfl⟩
    rcases wellFormed.childId?_leads nodeEq childEq with ⟨later, childNode, childNodeEq, _⟩
    exact ⟨later, lt_size_of_node? childNodeEq⟩

/-- Resolution looks at no more levels than there are nodes from its node on. -/
theorem WellFormed.resolveWithin_eq (wellFormed : tree.WellFormed) (check : ScopeCheck)
    (channelKind : ChannelKind) (delimiter text : List Char) {levels : Nat}
    (inside : id.index < tree.size) (enough : tree.size - id.index ≤ levels) :
    tree.resolveWithin check channelKind delimiter levels id text =
      some (tree.resolve check channelKind delimiter id text) := by
  induction levels generalizing id text with
  | zero => omega
  | succ levels ih =>
    rw [resolveWithin, resolve_eq_handOver?]
    cases handed : tree.handOver? delimiter id text with
    | none => rfl
    | some step =>
      rcases step with ⟨child, rest⟩
      rcases wellFormed.handOver?_leads handed with ⟨later, childInside⟩
      exact ih rest childInside (by omega)

/-- The nodes, entries and handlers of a tree fit together, whatever steps have led to it. Hence
every walk through the tree ends and stays in it. -/
theorem structure_of_build {declaration : RootDeclaration} {root tree : CommandTree Action}
    (created : CommandTree.ofRoot declaration = .ok root) {steps : List (BuildStep Action)}
    (built : root.build steps = tree) :
    (tree.settings.lead ≠ "" ∧ tree.settings.delimiters ≠ [] ∧
      ∀ delimiter ∈ tree.settings.delimiters, delimiter ≠ "") ∧
    (tree.node? .root).isSome ∧
    (∀ id node, tree.node? id = some node →
      node.id = id ∧ (node.isRoot = true ↔ id = .root) ∧ (node.parent? = none ↔ id = .root) ∧
      (id ≠ .root →
        (∃ parent, node.parent? = some parent ∧ parent.index < id.index) ∧
        node.codes ≠ [] ∧ ∀ code ∈ node.codes, isBlankString code = false) ∧
      (∀ key child, (key, child) ∈ node.children →
        id.index < child.index ∧ child.index < tree.size ∧
        ∃ childNode, tree.node? child = some childNode ∧ childNode.parent? = some id ∧
          ∃ code ∈ childNode.codes, key = node.fold code) ∧
      (∀ arity handler, (arity, handler) ∈ node.handlersByArity →
        node.handler? arity = some handler) ∧
      (∀ handler ∈ node.handlers, node.handler? handler.parameters.length = some handler) ∧
      ∀ arity handler, node.handler? arity = some handler →
        handler.node = id ∧ handler.parameters.length = arity ∧
          handler.argumentHelp.length = arity) ∧
    (∀ id node, tree.node? id = some node →
      tree.Ancestry node (tree.lineage node) ∧ (tree.lineage node).length ≤ id.index + 1 ∧
      ((tree.children id).map CommandNode.id).Perm (node.children.map Prod.snd).eraseDups ∧
      tree.allHandlers node = node.handlers ++ (tree.children id).flatMap tree.allHandlers ∧
      (∀ levels, tree.size - id.index ≤ levels →
        tree.handlersWithin levels node = tree.allHandlers node) ∧
      ∀ check channelKind delimiter text,
        tree.resolveWithin check channelKind delimiter (tree.size - id.index) id text =
          some (tree.resolve check channelKind delimiter id text)) ∧
    ∀ path id, tree.find? path = some id →
      ∃ node, tree.node? id = some node ∧
        ∀ code, tree.find? (path ++ [code]) = node.childId? code := by
  have wellFormed : tree.WellFormed := by
    rw [← built]
    exact ((Reachable.ofRoot created).build steps).wellFormed
  refine ⟨TreeSettings.fault?_eq_none_iff.mp wellFormed.settings_sound, ?_, ?_, ?_, ?_⟩
  · rcases wellFormed.root_eq with ⟨rootNode, rootEq, _⟩
    rw [rootEq]
    rfl
  · intro id node nodeEq
    refine ⟨wellFormed.id_eq nodeEq, wellFormed.isRoot_iff nodeEq,
      wellFormed.parent?_eq_none_iff nodeEq, ?_, ?_, ?_, ?_, ?_⟩
    · intro below
      rcases wellFormed.place_eq nodeEq below with
        ⟨parent, codes, placeEq, earlier, codesNeNil, notBlank⟩
      simp only [CommandNode.parent?, CommandNode.codes, placeEq]
      exact ⟨⟨parent, rfl, earlier⟩, codesNeNil, notBlank⟩
    · intro key child entryMem
      rcases wellFormed.entry_leads nodeEq entryMem with
        ⟨later, childNode, childNodeEq, parentIdEq, codeKnown⟩
      exact ⟨later, lt_size_of_node? childNodeEq, childNode, childNodeEq, parentIdEq, codeKnown⟩
    · intro arity handler entryMem
      exact CommandNode.handler?_of_mem (wellFormed.keys_ascend nodeEq) entryMem
    · intro handler handlerMem
      exact wellFormed.handler?_of_handlers nodeEq handlerMem
    · intro arity handler handlerEq
      exact wellFormed.handler?_fits nodeEq handlerEq
  · intro id node nodeEq
    have inside := lt_size_of_node? nodeEq
    rcases wellFormed.ancestry_lineage nodeEq with ⟨ancestry, lengthLe⟩
    refine ⟨ancestry, lengthLe, wellFormed.children_perm nodeEq,
      wellFormed.allHandlers_eq nodeEq, ?_, ?_⟩
    · intro levels enough
      exact wellFormed.handlersWithin_eq nodeEq enough (Nat.sub_le _ _)
    · intro check channelKind delimiter text
      exact wellFormed.resolveWithin_eq check channelKind delimiter text inside (Nat.le_refl _)
  · intro path id found
    rcases wellFormed.node?_of_find? found with ⟨node, nodeEq⟩
    refine ⟨node, nodeEq, ?_⟩
    intro code
    rw [find?_concat, found, Option.bind_some, nodeEq, Option.bind_some]

/-- The last of three nodes of a calculator, with the two nodes above it. -/
theorem structure_of_build_calculator :
    calculatorRoot.build calculatorSteps = calculator ∧
    ∃ node, calculator.node? ⟨2⟩ = some node ∧ node.parent? = some ⟨1⟩ ∧
      calculator.Ancestry node (calculator.lineage node) ∧
      (calculator.lineage node).length = 3 ∧
      calculator.find? ["c", "SUB"] = some ⟨2⟩ ∧ calculator.find? ["c", "SUB", "c"] = none := by
  have built : calculatorRoot.build calculatorSteps = calculator := rfl
  rcases structure_of_build calculatorRoot_created built with ⟨_, _, _, walks, paths⟩
  rcases paths ["c", "SUB"] ⟨2⟩ (by decide +kernel) with ⟨node, nodeEq, onward⟩
  refine ⟨built, node, nodeEq, ?_, (walks ⟨2⟩ node nodeEq).1, ?_, by decide +kernel, ?_⟩
  · cases nodeEq
    rfl
  · cases nodeEq
    rfl
  · exact (onward "c").trans (by cases nodeEq; rfl)

end CommandTree

end Switchboard
