import Mathlib.Data.List.Destutter
import Switchboard.Proofs.Tree.Coverage
import Switchboard.Proofs.Tree.Extension

/-!
# The order of listings

The entries of a node may be kept in any order, and a child has an entry for each of its codes. What
makes the order of siblings canonical is that no two nodes of a tree have the same position: the
order by index and position has no ties between them, so there is one way to sort them, and it does
not matter in which order their entries come or how repeated entries are dropped.

A help page without recursion is what a recursive one leaves if only the lines of the node itself and
of its direct children are kept. This is not a matter of depth alone, since a line only tells the
position of its node: what is below a child has a parent that does not come before the child, so it
is neither the node nor another direct child.
-/

namespace Switchboard

variable {Action : Type}

/-- A node that yields its entries in another order. -/
def CommandNode.withEntries (order : CommandNode Action → List (String × NodeId))
    (node : CommandNode Action) : CommandNode Action :=
  { node with children := order node }

namespace CommandTree

variable {tree : CommandTree Action} {id : NodeId} {node : CommandNode Action}

/-- The order of siblings without ties. -/
def Before (left right : CommandNode Action) : Prop :=
  left.order < right.order ∨ left.order = right.order ∧ left.id.index < right.id.index

theorem precedes_iff {left right : CommandNode Action} :
    precedes left right = true ↔
      left.order < right.order ∨ left.order = right.order ∧ left.id.index ≤ right.id.index := by
  simp [precedes]

theorem precedes_trans (first second third : CommandNode Action)
    (earlier : precedes first second = true) (later : precedes second third = true) :
    precedes first third = true := by
  rw [precedes_iff] at *
  omega

theorem precedes_total (left right : CommandNode Action) :
    (precedes left right || precedes right left) = true := by
  rw [Bool.or_eq_true, precedes_iff, precedes_iff]
  omega

theorem id_eq_of_precedes {left right : CommandNode Action} (before : precedes left right = true)
    (after : precedes right left = true) : left.id = right.id := by
  rw [precedes_iff] at before after
  have sameIndex : left.id.index = right.id.index := by omega
  exact congrArg NodeId.mk sameIndex

theorem sorted_siblings (nodes : List (CommandNode Action)) :
    (nodes.mergeSort precedes).Pairwise fun left right => precedes left right = true :=
  List.pairwise_mergeSort precedes_trans precedes_total nodes

theorem WellFormed.node_eq_of_id (wellFormed : tree.WellFormed) {left right : CommandNode Action}
    {leftId rightId : NodeId} (leftEq : tree.node? leftId = some left)
    (rightEq : tree.node? rightId = some right) (same : left.id = right.id) : left = right := by
  rw [wellFormed.id_eq leftEq, wellFormed.id_eq rightEq] at same
  rw [same, rightEq] at leftEq
  exact (Option.some.inj leftEq).symm

/-- There is one way to sort nodes of a tree. -/
theorem WellFormed.mergeSort_eq (wellFormed : tree.WellFormed) {ids others : List NodeId}
    (perm : ids.Perm others) :
    (ids.filterMap tree.node?).mergeSort precedes =
      (others.filterMap tree.node?).mergeSort precedes := by
  apply List.Perm.eq_of_pairwise _ (sorted_siblings _) (sorted_siblings _)
  · exact (List.mergeSort_perm _ _).trans ((perm.filterMap _).trans (List.mergeSort_perm _ _).symm)
  · intro left right leftMem rightMem before after
    rw [List.mem_mergeSort, List.mem_filterMap] at leftMem rightMem
    rcases leftMem with ⟨_, _, leftEq⟩
    rcases rightMem with ⟨_, _, rightEq⟩
    exact wellFormed.node_eq_of_id leftEq rightEq (id_eq_of_precedes before after)

theorem WellFormed.children_before (wellFormed : tree.WellFormed) (id : NodeId) :
    (tree.children id).Pairwise Before := by
  cases nodeEq : tree.node? id with
  | none => simp [children, nodeEq]
  | some node =>
    have sorted : (tree.children id).Pairwise fun left right => precedes left right = true := by
      simp only [children, nodeEq]
      exact sorted_siblings _
    apply (sorted.and (wellFormed.children_distinct nodeEq)).imp
    rintro left right ⟨before, distinct⟩
    have otherIndex : left.id.index ≠ right.id.index := mt (congrArg NodeId.mk) distinct
    rw [precedes_iff] at before
    unfold Before
    omega

theorem WellFormed.mem_children (wellFormed : tree.WellFormed) {child : CommandNode Action} :
    child ∈ tree.children id ↔
      tree.node? child.id = some child ∧
        ∃ node key, tree.node? id = some node ∧ (key, child.id) ∈ node.children := by
  cases nodeEq : tree.node? id with
  | none => simp [children, nodeEq]
  | some node =>
    rw [mem_children_iff nodeEq]
    constructor
    · rintro ⟨key, childId, entryMem, childEq⟩
      rw [wellFormed.id_eq childEq]
      exact ⟨childEq, node, key, rfl, entryMem⟩
    · rintro ⟨childEq, other, key, same, entryMem⟩
      cases same
      exact ⟨key, child.id, entryMem, childEq⟩

theorem perm_eraseDups {ids others : List NodeId} (distinct : others.Nodup)
    (sameMembers : ∀ id, id ∈ ids ↔ id ∈ others) : ids.eraseDups.Perm others := by
  apply (List.perm_ext_iff_of_nodup (nodup_eraseDups ids) distinct).mpr
  intro id
  rw [List.mem_eraseDups, sameMembers]

/-- The nodes that entries lead to, by way of two sorts: the positions are sorted so that repeated
ones stand together and can be dropped, and then the nodes are sorted. -/
def sortedChildren (tree : CommandTree Action) (entries : List (String × NodeId)) :
    List (CommandNode Action) :=
  let ids := (entries.map Prod.snd).mergeSort fun left right => decide (left.index ≤ right.index)
  ((ids.destutter (· ≠ ·)).filterMap tree.node?).mergeSort precedes

theorem WellFormed.sortedChildren_eq (wellFormed : tree.WellFormed)
    (nodeEq : tree.node? id = some node) {entries : List (String × NodeId)}
    (perm : entries.Perm node.children) : tree.sortedChildren entries = tree.children id := by
  have sorted : ((entries.map Prod.snd).mergeSort fun left right =>
      decide (left.index ≤ right.index)).Pairwise fun left right => left.index ≤ right.index := by
    apply (List.pairwise_mergeSort _ _ (entries.map Prod.snd)).imp
    · intro left right before
      exact of_decide_eq_true before
    · intro first second third
      simp only [decide_eq_true_eq]
      exact Nat.le_trans
    · intro left right
      simp only [Bool.or_eq_true, decide_eq_true_eq]
      exact Nat.le_total _ _
  have antisymm : Std.Antisymm fun left right : NodeId => left.index ≤ right.index :=
    ⟨fun _ _ before after => congrArg NodeId.mk (Nat.le_antisymm before after)⟩
  rw [sortedChildren, sorted.destutter_eq_dedup, children, nodeEq]
  apply wellFormed.mergeSort_eq
  apply (perm_eraseDups (List.nodup_dedup _) _).symm
  intro child
  rw [List.mem_dedup, List.mem_mergeSort]
  exact (perm.map Prod.snd).symm.mem_iff

/-- A tree in which every node yields its entries in another order. -/
def arrange (tree : CommandTree Action) (order : CommandNode Action → List (String × NodeId)) :
    CommandTree Action :=
  { tree with nodes := tree.nodes.map (.withEntries order) }

variable {order : CommandNode Action → List (String × NodeId)}

@[simp]
theorem node?_arrange (tree : CommandTree Action) (id : NodeId) :
    (tree.arrange order).node? id = (tree.node? id).map (.withEntries order) := by
  simp [node?, arrange]

@[simp]
theorem size_arrange (tree : CommandTree Action) : (tree.arrange order).size = tree.size := by
  simp [size, arrange]

theorem arrange_extends (tree : CommandTree Action) : (tree.arrange order).Extends tree := by
  refine ⟨rfl, ?_⟩
  intro id old oldEq
  exact ⟨.withEntries order old, by simp [oldEq], rfl⟩

/-- The children of a node are the same nodes in the same order. -/
theorem WellFormed.children_arrange (wellFormed : tree.WellFormed)
    (perm : ∀ node, (order node).Perm node.children) (id : NodeId) :
    (tree.arrange order).children id = (tree.children id).map (.withEntries order) := by
  cases nodeEq : tree.node? id with
  | none => simp [children, nodeEq]
  | some node =>
    have sameOrder (left right : CommandNode Action) :
        precedes left right = precedes (left.withEntries order) (right.withEntries order) := rfl
    have permIds : ((order node).map Prod.snd).eraseDups.Perm
        (node.children.map Prod.snd).eraseDups := by
      apply perm_eraseDups (nodup_eraseDups _)
      intro child
      rw [List.mem_eraseDups]
      exact ((perm node).map Prod.snd).mem_iff
    have arrangedEq : (tree.arrange order).node? id = some (node.withEntries order) := by
      rw [node?_arrange, nodeEq, Option.map_some]
    simp only [children, nodeEq, arrangedEq]
    rw [← wellFormed.mergeSort_eq permIds,
      List.map_mergeSort fun left _ right _ => sameOrder left right, List.map_filterMap]
    simp only [node?_arrange]
    rfl

theorem WellFormed.handlersWithin_arrange (wellFormed : tree.WellFormed)
    (perm : ∀ node, (order node).Perm node.children) (levels : Nat) (node : CommandNode Action) :
    (tree.arrange order).handlersWithin levels (node.withEntries order) =
      tree.handlersWithin levels node := by
  induction levels generalizing node with
  | zero => rfl
  | succ levels ih =>
    rw [handlersWithin, handlersWithin]
    change node.handlers ++ ((tree.arrange order).children node.id).flatMap _ = _
    rw [wellFormed.children_arrange perm, List.flatMap_map]
    simp only [ih]

theorem WellFormed.listing_arrange (wellFormed : tree.WellFormed) (handler : Handler Action) :
    (tree.arrange order).listing handler = tree.listing handler := by
  have usagesEq : (tree.arrange order).handlerUsage handler = tree.handlerUsage handler ∧
      (tree.arrange order).handlerUsages handler = tree.handlerUsages handler := by
    cases nodeEq : tree.node? handler.node with
    | none => simp [handlerUsage, handlerUsages, nodeEq]
    | some node => exact tree.arrange_extends.handlerUsage_eq wellFormed nodeEq
  rw [listing, listing, usagesEq.1, usagesEq.2]

/-- A help page is the same line by line. -/
theorem WellFormed.listHandlers_arrange (wellFormed : tree.WellFormed)
    (perm : ∀ node, (order node).Perm node.children) (id : NodeId) (recursive : Bool) :
    (tree.arrange order).listHandlers id recursive = tree.listHandlers id recursive := by
  have linesEq : (tree.arrange order).listing = tree.listing :=
    funext wellFormed.listing_arrange
  have listedEq : (tree.arrange order).listedHandlers id recursive =
      tree.listedHandlers id recursive := by
    cases nodeEq : tree.node? id with
    | none => simp [listedHandlers, nodeEq]
    | some node =>
      have allEq : (tree.arrange order).allHandlers (node.withEntries order) =
          tree.allHandlers node := by
        rw [allHandlers, allHandlers, size_arrange]
        exact wellFormed.handlersWithin_arrange perm tree.size node
      have nearEq : (tree.arrange order).nearHandlers (node.withEntries order) =
          tree.nearHandlers node := by
        rw [nearHandlers, nearHandlers]
        change node.handlers ++ ((tree.arrange order).children node.id).flatMap _ = _
        rw [wellFormed.children_arrange perm, List.flatMap_map]
        rfl
      simp only [listedHandlers, node?_arrange, nodeEq, Option.map_some, allEq, nearEq]
  rw [listHandlers, listHandlers, linesEq, listedEq]

/-- The walk through nodes and all that is below them, each node before what is below it. -/
inductive Preorder (tree : CommandTree Action) :
    List (CommandNode Action) → List (CommandNode Action) → Prop where
  | done : Preorder tree [] []
  | visit {node : CommandNode Action} {rest below beside : List (CommandNode Action)}
      (down : Preorder tree (tree.children node.id) below) (across : Preorder tree rest beside) :
      Preorder tree (node :: rest) (node :: (below ++ beside))

/-- Nodes below which a walk comes to an end are walked through one after the other. -/
theorem exists_preorder {nodes : List (CommandNode Action)}
    (each : ∀ node ∈ nodes, ∃ below, tree.Preorder (tree.children node.id) below ∧
      tree.allHandlers node = (node :: below).flatMap CommandNode.handlers) :
    ∃ visited, tree.Preorder nodes visited ∧
      nodes.flatMap tree.allHandlers = visited.flatMap CommandNode.handlers := by
  induction nodes with
  | nil => exact ⟨[], .done, rfl⟩
  | cons node rest ih =>
    rw [List.forall_mem_cons] at each
    rcases each.1 with ⟨below, down, handlersEq⟩
    rcases ih each.2 with ⟨beside, across, restEq⟩
    refine ⟨node :: (below ++ beside), .visit down across, ?_⟩
    rw [List.flatMap_cons, handlersEq, restEq]
    simp

/-- The handlers below a node are those of the nodes on the walk through its children. -/
theorem WellFormed.allHandlers_preorder (wellFormed : tree.WellFormed)
    (nodeEq : tree.node? id = some node) :
    ∃ below, tree.Preorder (tree.children id) below ∧
      tree.allHandlers node = (node :: below).flatMap CommandNode.handlers := by
  -- A child comes later than its parent, so the induction is on the nodes that are left.
  induction leftEq : tree.size - id.index using Nat.strongRecOn generalizing id node with
  | _ left ih =>
    have inside := lt_size_of_node? nodeEq
    have each : ∀ child ∈ tree.children id, ∃ below,
        tree.Preorder (tree.children child.id) below ∧
          tree.allHandlers child = (child :: below).flatMap CommandNode.handlers := by
      intro child childMem
      rcases wellFormed.child_later nodeEq childMem with ⟨childEq, later⟩
      exact ih _ (by omega) childEq rfl
    rcases exists_preorder each with ⟨below, walked, belowEq⟩
    refine ⟨below, walked, ?_⟩
    rw [wellFormed.allHandlers_eq nodeEq, belowEq, List.flatMap_cons]

theorem WellFormed.node?_of_preorder (wellFormed : tree.WellFormed)
    {nodes visited : List (CommandNode Action)} (walked : tree.Preorder nodes visited)
    (known : ∀ node ∈ nodes, tree.node? node.id = some node) :
    ∀ node ∈ visited, tree.node? node.id = some node := by
  induction walked with
  | done => simp
  | @visit node rest below beside _ _ downIh acrossIh =>
    rw [List.forall_mem_cons] at known
    have belowKnown := downIh fun child childMem => (wellFormed.mem_children.mp childMem).1
    rw [List.forall_mem_cons, List.forall_mem_append]
    exact ⟨known.1, belowKnown, acrossIh known.2⟩

/-- A handler below a node is on the node or on one whose parent does not come before the node. -/
theorem Reachable.parent_of_mem_allHandlers (reachable : tree.Reachable)
    (nodeEq : tree.node? id = some node) {handler : Handler Action}
    (listed : handler ∈ tree.allHandlers node) :
    handler.node = id ∨ ∃ host parent, tree.node? handler.node = some host ∧
      host.parent? = some parent ∧ id.index ≤ parent.index := by
  have wellFormed := reachable.wellFormed
  rcases (reachable.key_of_mem_allHandlers nodeEq listed).2 with ⟨path, found⟩
  rcases wellFormed.findFrom?_cases found with
    same | ⟨start, parent, host, startEq, _, hostEq, parentIdEq⟩
  · exact Or.inl same
  · exact Or.inr ⟨host, parent, hostEq, parentIdEq,
      (wellFormed.node?_of_findFrom? nodeEq startEq).1⟩

/-- The position of a node or of one of its children. -/
def IsNear (tree : CommandTree Action) (id host : NodeId) : Prop :=
  host = id ∨ host ∈ (tree.children id).map CommandNode.id

instance (tree : CommandTree Action) (id host : NodeId) : Decidable (tree.IsNear id host) :=
  inferInstanceAs (Decidable (_ ∨ _))

/-- Nothing below a child is near, apart from the child. -/
theorem Reachable.not_isNear (reachable : tree.Reachable) (nodeEq : tree.node? id = some node)
    {child grandchild : CommandNode Action} (childMem : child ∈ tree.children id)
    (grandchildMem : grandchild ∈ tree.children child.id) {handler : Handler Action}
    (listed : handler ∈ tree.allHandlers grandchild) : ¬tree.IsNear id handler.node := by
  have wellFormed := reachable.wellFormed
  rcases wellFormed.child_later nodeEq childMem with ⟨childEq, childLater⟩
  rcases wellFormed.child_later childEq grandchildMem with ⟨grandchildEq, later⟩
  have noEarlier := (reachable.key_of_mem_allHandlers grandchildEq listed).1
  -- The parent of the host does not come before the child, but a near host has the node as parent.
  obtain ⟨host, parent, hostEq, parentIdEq, parentLater⟩ : ∃ host parent,
      tree.node? handler.node = some host ∧ host.parent? = some parent ∧
        child.id.index ≤ parent.index := by
    rcases reachable.parent_of_mem_allHandlers grandchildEq listed with
      same | ⟨host, parent, hostEq, parentIdEq, parentLater⟩
    · rw [same]
      exact ⟨grandchild, child.id, grandchildEq,
        wellFormed.parent?_of_child_mem childEq grandchildMem, Nat.le_refl _⟩
    · exact ⟨host, parent, hostEq, parentIdEq, by omega⟩
  rintro (same | near)
  · rw [same] at noEarlier
    omega
  · rcases List.mem_map.mp near with ⟨sibling, siblingMem, same⟩
    have siblingEq := (wellFormed.child_later nodeEq siblingMem).1
    rw [same, hostEq, Option.some.injEq] at siblingEq
    rw [siblingEq, wellFormed.parent?_of_child_mem nodeEq siblingMem,
      Option.some.injEq] at parentIdEq
    rw [← parentIdEq] at parentLater
    omega

theorem WellFormed.filter_handlers (wellFormed : tree.WellFormed) {host : NodeId}
    {hostNode : CommandNode Action} (hostEq : tree.node? host = some hostNode)
    (near : tree.IsNear id host) :
    hostNode.handlers.filter (fun handler => tree.IsNear id handler.node) = hostNode.handlers := by
  apply List.filter_eq_self.mpr
  intro handler handlerMem
  apply decide_eq_true
  rw [wellFormed.handler_node hostEq handlerMem]
  exact near

/-- Of the handlers below a node, the near ones are those of the node and of its children. -/
theorem Reachable.filter_allHandlers (reachable : tree.Reachable)
    (nodeEq : tree.node? id = some node) :
    (tree.allHandlers node).filter (fun handler => tree.IsNear id handler.node) =
      tree.nearHandlers node := by
  have wellFormed := reachable.wellFormed
  rw [wellFormed.allHandlers_eq nodeEq, nearHandlers, wellFormed.id_eq nodeEq, List.filter_append,
    wellFormed.filter_handlers nodeEq (Or.inl rfl), List.filter_flatMap]
  congr 1
  apply List.flatMap_congr
  intro child childMem
  have childEq := (wellFormed.child_later nodeEq childMem).1
  have deeper : ((tree.children child.id).flatMap tree.allHandlers).filter
      (fun handler => tree.IsNear id handler.node) = [] := by
    apply List.filter_eq_nil_iff.mpr
    intro handler listed
    rcases List.mem_flatMap.mp listed with ⟨grandchild, grandchildMem, listed⟩
    have far := reachable.not_isNear nodeEq childMem grandchildMem listed
    simpa using far
  rw [wellFormed.allHandlers_eq childEq, List.filter_append, deeper, List.append_nil]
  exact wellFormed.filter_handlers childEq (Or.inr (List.mem_map_of_mem childMem))

theorem Reachable.listHandlers_false (reachable : tree.Reachable) (id : NodeId) :
    tree.listHandlers id false =
      (tree.listHandlers id true).map (List.filter fun line => tree.IsNear id line.node) := by
  cases nodeEq : tree.node? id with
  | none => simp [listHandlers, listedHandlers, nodeEq, Except.map]
  | some node =>
    simp only [listHandlers, listedHandlers, nodeEq, Except.map, if_true, Bool.false_eq_true,
      if_false, List.filter_map, ← reachable.filter_allHandlers nodeEq]
    rfl

/-- The children of a node are those that hold a key, in an order without ties. A recursive help
page goes through them from above, the handlers of each node by arity, and the page without recursion
keeps the lines of the node and of its children. The order in which entries are kept makes no
difference, and a position that the tree does not have has neither children nor a page. -/
theorem listings_canonical (reachable : tree.Reachable) (id : NodeId) :
    (tree.children id).Pairwise Before ∧
    (∀ child, child ∈ tree.children id ↔ tree.node? child.id = some child ∧
      ∃ node key, tree.node? id = some node ∧ (key, child.id) ∈ node.children) ∧
    (∀ node, tree.node? id = some node → ∃ below,
      tree.Preorder (tree.children id) below ∧
      tree.listHandlers id true =
        .ok (((node :: below).flatMap CommandNode.handlers).map tree.listing) ∧
      ∀ step ∈ node :: below, CommandNode.Ascending step.handlers) ∧
    tree.listHandlers id false =
      (tree.listHandlers id true).map (List.filter fun line => tree.IsNear id line.node) ∧
    (tree.node? id = none → tree.children id = [] ∧
      ∀ recursive, tree.listHandlers id recursive = .error (.nodeNotFound id)) ∧
    (∀ node, tree.node? id = some node → ∀ entries, entries.Perm node.children →
      tree.sortedChildren entries = tree.children id) ∧
    ∀ order : CommandNode Action → List (String × NodeId),
      (∀ node, (order node).Perm node.children) →
      (tree.arrange order).children id = (tree.children id).map (.withEntries order) ∧
      ∀ recursive, (tree.arrange order).listHandlers id recursive =
        tree.listHandlers id recursive := by
  have wellFormed := reachable.wellFormed
  refine ⟨wellFormed.children_before id, fun child => wellFormed.mem_children, ?_,
    reachable.listHandlers_false id, ?_, ?_, ?_⟩
  · intro node nodeEq
    rcases wellFormed.allHandlers_preorder nodeEq with ⟨below, walked, handlersEq⟩
    refine ⟨below, walked, ?_, ?_⟩
    · simp only [listHandlers, listedHandlers, nodeEq, if_true, handlersEq]
      rfl
    · have known := wellFormed.node?_of_preorder walked fun child childMem =>
        (wellFormed.mem_children.mp childMem).1
      rw [List.forall_mem_cons]
      refine ⟨wellFormed.handlers_ascend nodeEq, ?_⟩
      intro step stepMem
      exact wellFormed.handlers_ascend (known step stepMem)
  · intro missing
    constructor
    · rw [children, missing]
    · intro recursive
      rw [listHandlers, listedHandlers, missing]
      rfl
  · intro node nodeEq entries perm
    exact wellFormed.sortedChildren_eq nodeEq perm
  · intro order perm
    exact ⟨wellFormed.children_arrange perm id, wellFormed.listHandlers_arrange perm id⟩

/-- The page of the root without recursion leaves out the handlers of the last node, also if every
node yields its entries from the end. -/
theorem listings_canonical_calculator :
    calculator.Reachable ∧ ∃ page, calculator.listHandlers .root true = .ok page ∧
      page.map HandlerListing.key = [(⟨1⟩, 2), (⟨2⟩, 0), (⟨2⟩, 1)] ∧
      calculator.listHandlers .root false =
        .ok (page.filter fun line => calculator.IsNear .root line.node) ∧
      (calculator.arrange (·.children.reverse)).listHandlers .root false =
        calculator.listHandlers .root false := by
  rcases listings_canonical calculator_reachable .root with
    ⟨_, _, recursiveEq, nearEq, _, _, arrangedEq⟩
  rcases calculator_reachable.wellFormed.root_eq with ⟨root, rootEq, _⟩
  rcases recursiveEq root rootEq with ⟨below, _, pageEq, _⟩
  refine ⟨calculator_reachable, _, pageEq, ?_, ?_, ?_⟩
  · have keysEq : (calculator.listHandlers .root true).map (List.map HandlerListing.key) =
        .ok [(⟨1⟩, 2), (⟨2⟩, 0), (⟨2⟩, 1)] := by decide +kernel
    rw [pageEq, Except.map, Except.ok.injEq] at keysEq
    exact keysEq
  · rw [nearEq, pageEq]
    rfl
  · exact (arrangedEq (·.children.reverse) fun node => List.reverse_perm _).2 false

end CommandTree

end Switchboard
