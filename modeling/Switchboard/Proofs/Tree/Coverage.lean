import Mathlib.Data.List.Nodup
import Switchboard.Dispatch.Dispatcher
import Switchboard.Proofs.Tree.Selection

/-!
# Coverage of listings

A recursive listing goes down through the entries of every node, a path of codes goes down by
looking codes up, and a message goes down by the first token that is left of it. All three come to
the same nodes: no two entries of a node have the same key, so each entry can be looked up. And a
listing comes to a node only once, although a child has an entry for each of its codes: a node is
below at most one of several siblings, since the parent links lead back from it in one way.
-/

namespace Switchboard

variable {Action : Type}

namespace CommandNode

theorem map_fst_assign (key : String) (child : NodeId) (entries : List (String × NodeId)) :
    (assign key child entries).map Prod.fst =
      if key ∈ entries.map Prod.fst then entries.map Prod.fst
      else entries.map Prod.fst ++ [key] := by
  induction entries with
  | nil => simp [assign]
  | cons entry rest ih =>
    rcases entry with ⟨head, id⟩
    by_cases found : head = key
    · simp [assign, found]
    · by_cases later : key ∈ rest.map Prod.fst
      · simp [assign, found, ih, later]
      · simp [assign, found, ih, later, Ne.symm found]

theorem nodup_assignAll (parent child : NodeId) {entries : List (String × NodeId)}
    (keys : List String) (distinct : (entries.map Prod.fst).Nodup) :
    ((assignAll parent child entries keys).1.map Prod.fst).Nodup := by
  induction keys generalizing entries with
  | nil => simpa [assignAll] using distinct
  | cons key rest ih =>
    simp only [assignAll]
    apply ih
    rw [map_fst_assign]
    split
    · exact distinct
    · rename_i new
      exact List.nodup_append.mpr ⟨distinct, List.nodup_singleton key, by
        intro other otherMem last lastMem
        rw [List.mem_singleton] at lastMem
        rintro rfl
        exact new (lastMem ▸ otherMem)⟩

end CommandNode

namespace CommandTree

variable {tree : CommandTree Action} {id : NodeId} {node : CommandNode Action}

/-- No two entries of a node have the same key. -/
theorem Reachable.keys_distinct (reachable : tree.Reachable) :
    ∀ id node, tree.node? id = some node → (node.children.map Prod.fst).Nodup := by
  apply Reachable.invariant _ _ _ reachable
  · intro declaration tree created id node nodeEq
    rw [(node?_of_ofRoot created).2.2] at nodeEq
    split at nodeEq
    · cases nodeEq
      exact List.nodup_nil
    · cases nodeEq
  · intro tree next parent child declaration parentNode before added id node nodeEq
    rw [added.node_eq] at nodeEq
    split at nodeEq
    · cases nodeEq
      exact List.nodup_nil
    · split at nodeEq
      · cases nodeEq
        exact CommandNode.nodup_assignAll _ _ _ (before parent parentNode added.parent_eq)
      · exact before id node nodeEq
  · intro tree next host declaration action hostNode before placed id node nodeEq
    rcases placed.node_cases nodeEq with ⟨old, oldEq, same, _⟩
    have distinct := before id old oldEq
    rw [same]
    exact distinct

/-- The children in a listing are those that answer to a code. -/
theorem Reachable.mem_children_iff_childId? (reachable : tree.Reachable)
    (nodeEq : tree.node? id = some node) {child : CommandNode Action} :
    child ∈ tree.children id ↔
      ∃ code, node.childId? code = some child.id ∧ tree.node? child.id = some child := by
  rw [mem_children_iff nodeEq]
  constructor
  · rintro ⟨key, childId, entryMem, childEq⟩
    rcases reachable.wellFormed.entry_leads nodeEq entryMem with ⟨_, _, _, _, code, _, rfl⟩
    rw [reachable.wellFormed.id_eq childEq]
    exact ⟨code, lookup_of_mem (reachable.keys_distinct id node nodeEq) entryMem,
      childEq⟩
  · rintro ⟨code, childEq, childNodeEq⟩
    exact ⟨node.fold code, child.id, mem_of_lookup childEq, childNodeEq⟩

/-- The last step of a path leads from the parent of the node that it comes to. -/
theorem WellFormed.findFrom?_cases (wellFormed : tree.WellFormed) {path : List String}
    {last : NodeId} (found : tree.findFrom? id path = some last) :
    last = id ∨ ∃ start parent lastNode, tree.findFrom? id start = some parent ∧
      start.length < path.length ∧ tree.node? last = some lastNode ∧
      lastNode.parent? = some parent := by
  rcases List.eq_nil_or_concat path with rfl | ⟨start, code, rfl⟩
  · left
    simpa [findFrom?] using found.symm
  · right
    rw [List.concat_eq_append, findFrom?_concat, Option.bind_eq_some_iff] at found
    rcases found with ⟨parent, startEq, onward⟩
    rcases Option.bind_eq_some_iff.mp onward with ⟨parentNode, parentEq, lastEq⟩
    rcases wellFormed.childId?_leads parentEq lastEq with
      ⟨_, lastNode, lastNodeEq, parentIdEq, _⟩
    exact ⟨start, parent, lastNode, startEq, by simp, lastNodeEq, parentIdEq⟩

/-- Paths from two siblings do not meet. -/
theorem WellFormed.siblings_eq (wellFormed : tree.WellFormed) {left right parent last : NodeId}
    {leftNode rightNode : CommandNode Action} (leftEq : tree.node? left = some leftNode)
    (rightEq : tree.node? right = some rightNode) (leftParent : leftNode.parent? = some parent)
    (rightParent : rightNode.parent? = some parent) (leftLater : parent.index < left.index)
    (rightLater : parent.index < right.index) {leftPath rightPath : List String}
    (leftFound : tree.findFrom? left leftPath = some last)
    (rightFound : tree.findFrom? right rightPath = some last) : left = right := by
  -- Both paths are taken back step by step; the one that is used up first stands at a sibling,
  -- whose parent is too early for the other path.
  induction lengthEq : leftPath.length using Nat.strongRecOn
    generalizing leftPath rightPath last with
  | _ length ih =>
    rcases wellFormed.findFrom?_cases leftFound with
      rfl | ⟨leftStart, leftAbove, lastNode, leftLeads, leftShorter, lastEq, aboveEq⟩
    · rcases wellFormed.findFrom?_cases rightFound with
        same | ⟨_, above, lastNode, rightLeads, _, lastEq, aboveEq⟩
      · exact same
      · rw [leftEq, Option.some.injEq] at lastEq
        rw [← lastEq, leftParent, Option.some.injEq] at aboveEq
        have noEarlier := (wellFormed.node?_of_findFrom? rightEq rightLeads).1
        rw [← aboveEq] at noEarlier
        omega
    · rcases wellFormed.findFrom?_cases rightFound with
        rfl | ⟨rightStart, rightAbove, _, rightLeads, _, sameEq, sameAbove⟩
      · rw [rightEq, Option.some.injEq] at lastEq
        rw [← lastEq, rightParent, Option.some.injEq] at aboveEq
        have noEarlier := (wellFormed.node?_of_findFrom? leftEq leftLeads).1
        rw [← aboveEq] at noEarlier
        omega
      · rw [lastEq, Option.some.injEq] at sameEq
        rw [← sameEq, aboveEq, Option.some.injEq] at sameAbove
        rw [← sameAbove] at rightLeads
        exact ih leftStart.length (by omega) leftLeads rightLeads rfl

/-- A handler in the list of a node is the one that answers for its arity. -/
theorem WellFormed.registered (wellFormed : tree.WellFormed) (nodeEq : tree.node? id = some node)
    {handler : Handler Action} (own : handler ∈ node.handlers) :
    tree.handler? handler.node handler.arity = some handler := by
  rw [wellFormed.handler_node nodeEq own, CommandTree.handler?, nodeEq]
  exact wellFormed.handler?_of_handlers nodeEq own

theorem WellFormed.registered_of_handler? (wellFormed : tree.WellFormed) {arity : Nat}
    {handler : Handler Action} (handlerEq : tree.handler? id arity = some handler) :
    tree.handler? handler.node handler.arity = some handler := by
  rcases Option.bind_eq_some_iff.mp handlerEq with ⟨node, nodeEq, onNode⟩
  exact wellFormed.registered nodeEq (CommandNode.mem_handlers_of_handler? onNode)

theorem WellFormed.registered_of_mem_handlersWithin (wellFormed : tree.WellFormed) {levels : Nat}
    (nodeEq : tree.node? id = some node) {handler : Handler Action}
    (listed : handler ∈ tree.handlersWithin levels node) :
    tree.handler? handler.node handler.arity = some handler := by
  induction levels generalizing id node with
  | zero => cases listed
  | succ levels ih =>
    rw [handlersWithin, wellFormed.id_eq nodeEq] at listed
    rcases List.mem_append.mp listed with own | below
    · exact wellFormed.registered nodeEq own
    · rcases List.mem_flatMap.mp below with ⟨child, childMem, listed⟩
      exact ih (wellFormed.child_later nodeEq childMem).1 listed

/-- Every handler on a help page is the one that answers for its arity on its node. -/
theorem WellFormed.registered_of_listed (wellFormed : tree.WellFormed) {recursive : Bool}
    {handlers : List (Handler Action)} (listedEq : tree.listedHandlers id recursive = .ok handlers)
    {handler : Handler Action} (listed : handler ∈ handlers) :
    tree.handler? handler.node handler.arity = some handler := by
  rw [listedHandlers] at listedEq
  split at listedEq
  · cases listedEq
  · rename_i node nodeEq
    cases listedEq
    split at listed
    · exact wellFormed.registered_of_mem_handlersWithin nodeEq listed
    · rw [nearHandlers, wellFormed.id_eq nodeEq] at listed
      rcases List.mem_append.mp listed with own | below
      · exact wellFormed.registered nodeEq own
      · rcases List.mem_flatMap.mp below with ⟨child, childMem, own⟩
        exact wellFormed.registered (wellFormed.child_later nodeEq childMem).1 own

/-- The handlers below a node are those of the nodes that paths of codes lead to. -/
theorem Reachable.mem_allHandlers_iff (reachable : tree.Reachable)
    (nodeEq : tree.node? id = some node) {handler : Handler Action} :
    handler ∈ tree.allHandlers node ↔
      ∃ path last, tree.findFrom? id path = some last ∧
        tree.handler? last handler.arity = some handler := by
  have wellFormed := reachable.wellFormed
  constructor
  · intro listed
    -- A child comes later than its parent, so the induction is on the nodes that are left.
    induction leftEq : tree.size - id.index using Nat.strongRecOn generalizing id node with
    | _ left ih =>
      have inside := lt_size_of_node? nodeEq
      rw [wellFormed.allHandlers_eq nodeEq] at listed
      rcases List.mem_append.mp listed with own | below
      · refine ⟨[], id, rfl, ?_⟩
        rw [CommandTree.handler?, nodeEq]
        exact wellFormed.handler?_of_handlers nodeEq own
      · rcases List.mem_flatMap.mp below with ⟨child, childMem, listed⟩
        rcases (reachable.mem_children_iff_childId? nodeEq).mp childMem with
          ⟨code, childEq, childNodeEq⟩
        have later := (wellFormed.childId?_leads nodeEq childEq).1
        rcases ih _ (by omega) childNodeEq listed rfl with ⟨path, last, found, handlerEq⟩
        refine ⟨code :: path, last, ?_, handlerEq⟩
        rw [findFrom?_cons, nodeEq, Option.bind_some, childEq]
        exact found
  · rintro ⟨path, last, found, handlerEq⟩
    induction path generalizing id node with
    | nil =>
      have same : id = last := by simpa [findFrom?] using found
      rw [← same, CommandTree.handler?, nodeEq] at handlerEq
      rw [wellFormed.allHandlers_eq nodeEq]
      exact List.mem_append_left _ (CommandNode.mem_handlers_of_handler? handlerEq)
    | cons code path ih =>
      rw [findFrom?_cons, nodeEq, Option.bind_some, Option.bind_eq_some_iff] at found
      rcases found with ⟨child, childEq, onward⟩
      rcases wellFormed.childId?_leads nodeEq childEq with ⟨_, childNode, childNodeEq, _⟩
      have childMem : childNode ∈ tree.children id := by
        apply (reachable.mem_children_iff_childId? nodeEq).mpr
        rw [wellFormed.id_eq childNodeEq]
        exact ⟨code, childEq, childNodeEq⟩
      rw [wellFormed.allHandlers_eq nodeEq]
      exact List.mem_append_right _ (List.mem_flatMap.mpr ⟨childNode, childMem,
        ih childNodeEq onward⟩)

end CommandTree

/-- What tells handlers of a tree apart: the node and the number of arguments. -/
def Handler.key (handler : Handler Action) : NodeId × Nat :=
  (handler.node, handler.arity)

/-- What tells the lines of a help page apart. -/
def HandlerListing.key (listing : HandlerListing) : NodeId × Nat :=
  (listing.node, listing.arity)

namespace CommandTree

variable {tree : CommandTree Action} {id : NodeId} {node : CommandNode Action}

theorem WellFormed.nodup_keys (wellFormed : tree.WellFormed)
    (nodeEq : tree.node? id = some node) : (node.handlers.map Handler.key).Nodup := by
  rw [List.Nodup, List.pairwise_map]
  apply (wellFormed.handlers_ascend nodeEq).imp
  intro left right less same
  have sameArity : left.arity = right.arity := congrArg Prod.snd same
  omega

theorem nodup_eraseDups (ids : List NodeId) : ids.eraseDups.Nodup := by
  -- The tail is looked at without further copies of the head, so the induction is on the length.
  induction lengthEq : ids.length using Nat.strongRecOn generalizing ids with
  | _ length ih =>
    cases ids with
    | nil => exact List.nodup_nil
    | cons id rest =>
      have shorter : (rest.filter fun other => !other == id).length < length := by
        have := List.length_filter_le (fun other => !other == id) rest
        simp only [List.length_cons] at lengthEq
        omega
      rw [List.eraseDups_cons]
      apply List.nodup_cons.mpr
      refine ⟨?_, ih _ shorter _ rfl⟩
      intro again
      simpa using (List.mem_filter.mp (List.mem_eraseDups.mp again)).2

theorem WellFormed.children_distinct (wellFormed : tree.WellFormed)
    (nodeEq : tree.node? id = some node) :
    (tree.children id).Pairwise fun left right => left.id ≠ right.id := by
  rw [← List.pairwise_map]
  exact (wellFormed.children_perm nodeEq).nodup_iff.mpr (nodup_eraseDups _)

/-- A handler below a node belongs to the node or to a later one. -/
theorem Reachable.key_of_mem_allHandlers (reachable : tree.Reachable)
    (nodeEq : tree.node? id = some node) {handler : Handler Action}
    (listed : handler ∈ tree.allHandlers node) :
    id.index ≤ handler.node.index ∧ ∃ path, tree.findFrom? id path = some handler.node := by
  have wellFormed := reachable.wellFormed
  rcases (reachable.mem_allHandlers_iff nodeEq).mp listed with ⟨path, last, found, handlerEq⟩
  rcases wellFormed.node?_of_findFrom? nodeEq found with ⟨noEarlier, lastNode, lastEq⟩
  rw [CommandTree.handler?, lastEq] at handlerEq
  rw [(wellFormed.handler?_fits lastEq handlerEq).1]
  exact ⟨noEarlier, path, found⟩

theorem WellFormed.parent?_of_child_mem (wellFormed : tree.WellFormed)
    (nodeEq : tree.node? id = some node) {child : CommandNode Action}
    (childMem : child ∈ tree.children id) : child.parent? = some id := by
  rcases (mem_children_iff nodeEq).mp childMem with ⟨key, childId, entryMem, childEq⟩
  rcases wellFormed.entry_leads nodeEq entryMem with ⟨_, childNode, childNodeEq, parentIdEq, _⟩
  rw [childEq, Option.some.injEq] at childNodeEq
  rw [childNodeEq]
  exact parentIdEq

/-- Two children have no handler in common, however deep below them. -/
theorem Reachable.node_ne_of_siblings (reachable : tree.Reachable)
    (nodeEq : tree.node? id = some node) {left right : CommandNode Action}
    (leftMem : left ∈ tree.children id) (rightMem : right ∈ tree.children id)
    (different : left.id ≠ right.id) {handler other : Handler Action}
    (listed : handler ∈ tree.allHandlers left) (otherListed : other ∈ tree.allHandlers right) :
    handler.node ≠ other.node := by
  have wellFormed := reachable.wellFormed
  rcases wellFormed.child_later nodeEq leftMem with ⟨leftEq, leftLater⟩
  rcases wellFormed.child_later nodeEq rightMem with ⟨rightEq, rightLater⟩
  rcases (reachable.key_of_mem_allHandlers leftEq listed).2 with ⟨leftPath, leftFound⟩
  rcases (reachable.key_of_mem_allHandlers rightEq otherListed).2 with ⟨rightPath, rightFound⟩
  intro same
  rw [← same] at rightFound
  exact different (wellFormed.siblings_eq leftEq rightEq
    (wellFormed.parent?_of_child_mem nodeEq leftMem)
    (wellFormed.parent?_of_child_mem nodeEq rightMem) leftLater rightLater leftFound
    rightFound)

/-- No handler is listed twice. -/
theorem Reachable.nodup_allHandlers (reachable : tree.Reachable)
    (nodeEq : tree.node? id = some node) :
    ((tree.allHandlers node).map Handler.key).Nodup := by
  have wellFormed := reachable.wellFormed
  induction leftEq : tree.size - id.index using Nat.strongRecOn generalizing id node with
  | _ left ih =>
    have inside := lt_size_of_node? nodeEq
    rw [wellFormed.allHandlers_eq nodeEq, List.map_append, List.map_flatMap]
    apply List.nodup_append.mpr
    refine ⟨wellFormed.nodup_keys nodeEq, ?_, ?_⟩
    · apply List.nodup_flatMap.mpr
      constructor
      · intro child childMem
        rcases wellFormed.child_later nodeEq childMem with ⟨childEq, later⟩
        exact ih _ (by omega) childEq rfl
      · apply (wellFormed.children_distinct nodeEq).imp_of_mem
        intro first second firstMem secondMem different key firstKey secondKey
        rcases List.mem_map.mp firstKey with ⟨handler, listed, rfl⟩
        rcases List.mem_map.mp secondKey with ⟨other, otherListed, same⟩
        exact reachable.node_ne_of_siblings nodeEq firstMem secondMem different listed
          otherListed (congrArg Prod.fst same).symm
    · intro key ownKey other belowKey same
      subst other
      rcases List.mem_map.mp ownKey with ⟨handler, own, rfl⟩
      rcases List.mem_flatMap.mp belowKey with ⟨child, childMem, childKey⟩
      rcases List.mem_map.mp childKey with ⟨other, listed, same⟩
      rcases wellFormed.child_later nodeEq childMem with ⟨childEq, later⟩
      have noEarlier := (reachable.key_of_mem_allHandlers childEq listed).1
      have sameNode : other.node = handler.node := congrArg Prod.fst same
      rw [sameNode, wellFormed.handler_node nodeEq own] at noEarlier
      omega

/-- A help page has one line for each handler of each node that paths of codes lead to from a
node, and no other line. -/
structure Covers (tree : CommandTree Action) (id : NodeId) (page : List HandlerListing) :
    Prop where
  nodup_keys : (page.map HandlerListing.key).Nodup
  mem_keys_iff : ∀ last arity, (last, arity) ∈ page.map HandlerListing.key ↔
    (∃ path, tree.findFrom? id path = some last) ∧ (tree.handler? last arity).isSome
  line_eq : ∀ line ∈ page, ∃ handler,
    tree.handler? line.node line.arity = some handler ∧ line = tree.listing handler

/-- The help page of a node of the tree covers all that is below the node. -/
theorem Reachable.covers_listHandlers (reachable : tree.Reachable)
    (nodeEq : tree.node? id = some node) :
    ∃ page, tree.listHandlers id true = .ok page ∧ tree.Covers id page := by
  have wellFormed := reachable.wellFormed
  have keysEq : ((tree.allHandlers node).map tree.listing).map HandlerListing.key =
      (tree.allHandlers node).map Handler.key := by
    rw [List.map_map]
    rfl
  refine ⟨(tree.allHandlers node).map tree.listing, ?_, ?_, ?_, ?_⟩
  · simp [listHandlers, listedHandlers, nodeEq, Except.map]
  · rw [keysEq]
    exact reachable.nodup_allHandlers nodeEq
  · intro last arity
    rw [keysEq, List.mem_map]
    constructor
    · rintro ⟨handler, listed, same⟩
      rw [Handler.key, Prod.mk.injEq] at same
      rw [← same.1, ← same.2, wellFormed.registered_of_mem_handlersWithin nodeEq listed]
      exact ⟨(reachable.key_of_mem_allHandlers nodeEq listed).2, rfl⟩
    · rintro ⟨⟨path, found⟩, known⟩
      rcases Option.isSome_iff_exists.mp known with ⟨handler, handlerEq⟩
      rcases wellFormed.node?_of_findFrom? nodeEq found with ⟨_, lastNode, lastEq⟩
      have onNode : lastNode.handler? arity = some handler := by
        rw [CommandTree.handler?, lastEq] at handlerEq
        exact handlerEq
      rcases wellFormed.handler?_fits lastEq onNode with ⟨hostEq, arityEq, _⟩
      have arityEq : handler.arity = arity := arityEq
      refine ⟨handler, ?_, by rw [Handler.key, hostEq, arityEq]⟩
      apply (reachable.mem_allHandlers_iff nodeEq).mpr
      rw [arityEq]
      exact ⟨path, last, found, handlerEq⟩
  · intro line lineMem
    rcases List.mem_map.mp lineMem with ⟨handler, listed, rfl⟩
    exact ⟨handler, wellFormed.registered_of_mem_handlersWithin nodeEq listed, rfl⟩

/-- A text comes to a node that a path of codes leads to. -/
theorem HandedDown.exists_path {delimiter text left : List Char} {last : NodeId}
    (comes : tree.HandedDown delimiter id text last left) :
    ∃ path, tree.findFrom? id path = some last := by
  induction comes with
  | stays => exact ⟨[], rfl⟩
  | @passes id child last text rest left handed onward ih =>
    rcases ih with ⟨path, found⟩
    rcases Option.bind_eq_some_iff.mp handed with ⟨node, nodeEq, handed⟩
    split at handed
    · cases handed
    · rcases Option.map_eq_some_iff.mp handed with ⟨named, childEq, same⟩
      rw [Prod.mk.injEq] at same
      refine ⟨String.ofList (splitFirst text delimiter).1 :: path, ?_⟩
      rw [findFrom?_cons, nodeEq, Option.bind_some, childEq, Option.bind_some, same.1]
      exact found

/-- A handler that answers to a text, or would answer if its scope did not forbid it, is on a node
that a path of codes leads to. -/
theorem WellFormed.exists_path_of_resolve (wellFormed : tree.WellFormed) {check : ScopeCheck}
    {channelKind : ChannelKind} {delimiter text : List Char} {last : NodeId} {arity : Nat}
    (answered : (∃ tokens, tokens.length = arity ∧
        tree.resolve check channelKind delimiter id text = .matched last tokens) ∨
      ∃ response, tree.resolve check channelKind delimiter id text =
        .outOfScope last arity response) :
    (∃ path, tree.findFrom? id path = some last) ∧ (tree.handler? last arity).isSome := by
  rcases wellFormed.handedDown_of_resolve answered with ⟨⟨_, comes⟩, registered⟩
  exact ⟨comes.exists_path, registered⟩

/-- The help page of the root lists every handler that a path of codes leads to once, and nothing
else. No message triggers a handler that the page hides, whatever codes have been given to other
nodes on the way. The page of any other node covers what is below this node in the same way. -/
theorem help_page_complete (reachable : tree.Reachable) :
    (∃ page, tree.listHandlers .root true = .ok page ∧ (page.map HandlerListing.key).Nodup ∧
      (∀ last arity, (last, arity) ∈ page.map HandlerListing.key ↔
        (∃ path, tree.find? path = some last) ∧ (tree.handler? last arity).isSome) ∧
      ∀ (dispatcher : Dispatcher Action) (event : TextEvent), dispatcher.tree = tree →
        (∀ last tokens, dispatcher.resolve event = .matched last tokens →
          (last, tokens.length) ∈ page.map HandlerListing.key) ∧
        ∀ last arity response, dispatcher.resolve event = .outOfScope last arity response →
          (last, arity) ∈ page.map HandlerListing.key) ∧
    ∀ id node, tree.node? id = some node →
      ∃ page, tree.listHandlers id true = .ok page ∧ tree.Covers id page := by
  constructor
  · rcases reachable.wellFormed.root_eq with ⟨root, rootEq, _⟩
    rcases reachable.covers_listHandlers rootEq with ⟨page, pageEq, covers⟩
    refine ⟨page, pageEq, covers.nodup_keys, covers.mem_keys_iff, ?_⟩
    rintro dispatcher event rfl
    rw [Dispatcher.resolve]
    split
    · constructor
      · intro last tokens impossible
        cases impossible
      · intro last arity response impossible
        cases impossible
    · have wellFormed := reachable.wellFormed
      constructor
      · intro last tokens answered
        apply (covers.mem_keys_iff last tokens.length).mpr
        exact wellFormed.exists_path_of_resolve (Or.inl ⟨tokens, rfl, answered⟩)
      · intro last arity response answered
        apply (covers.mem_keys_iff last arity).mpr
        exact wellFormed.exists_path_of_resolve (Or.inr ⟨response, answered⟩)
  · intro id node nodeEq
    exact reachable.covers_listHandlers nodeEq

/-- The page of a calculator shows the handler with one parameter that its last node has. -/
theorem help_page_complete_calculator :
    calculator.Reachable ∧ ∃ page, calculator.listHandlers .root true = .ok page ∧
      (⟨2⟩, 1) ∈ page.map HandlerListing.key := by
  rcases help_page_complete calculator_reachable with ⟨⟨page, pageEq, _, memKeysIff, _⟩, _⟩
  refine ⟨calculator_reachable, page, pageEq, ?_⟩
  apply (memKeysIff ⟨2⟩ 1).mpr
  exact ⟨⟨["c", "SUB"], by decide +kernel⟩, by decide +kernel⟩

end CommandTree

end Switchboard
