import Switchboard.Proofs.Tree.Reachable

/-!
# The invariant of reachable trees

Every reachable tree is well formed. In particular parents come before their children, which makes
every way down the tree end, and no entry has an empty key, so that an empty text names no child. A
handler is kept under the number of its parameters, so what is found for a number of tokens takes
all of them.
-/

namespace Switchboard

variable {Action : Type}

namespace CommandTree

/-- What parent links, entries and handlers of a tree have to do with each other. -/
structure WellFormed (tree : CommandTree Action) : Prop where
  settings_sound : tree.settings.fault? = none
  root_eq : ∃ root, tree.node? .root = some root ∧ root.isRoot = true
  /-- A node knows its own position. -/
  id_eq : ∀ {id node}, tree.node? id = some node → node.id = id
  /-- Every other node has an earlier parent and codes that are not blank. -/
  place_eq : ∀ {id node}, tree.node? id = some node → id ≠ .root →
    ∃ parent codes, node.place = .below parent codes ∧ parent.index < id.index ∧
      codes ≠ [] ∧ ∀ code ∈ codes, isBlankString code = false
  /-- An entry leads to a later node, which is a child of the node and has a code for the key. -/
  entry_leads : ∀ {id node key child}, tree.node? id = some node → (key, child) ∈ node.children →
    id.index < child.index ∧ ∃ childNode, tree.node? child = some childNode ∧
      childNode.parent? = some id ∧ ∃ code ∈ childNode.codes, key = node.fold code
  /-- A handler is kept under the number of its parameters, knows its node and has one help text for
  each parameter. -/
  handler_fits : ∀ {id node arity handler}, tree.node? id = some node →
    (arity, handler) ∈ node.handlersByArity →
    handler.arity = arity ∧ handler.node = id ∧ handler.argumentHelp.length = arity
  keys_ascend : ∀ {id node}, tree.node? id = some node → CommandNode.KeysAscend node.handlersByArity

theorem wellFormed_of_ofRoot {declaration : RootDeclaration} {tree : CommandTree Action}
    (created : CommandTree.ofRoot declaration = .ok tree) : tree.WellFormed := by
  rcases node?_of_ofRoot created with ⟨_, sound, nodesEq⟩
  have only : ∀ {id : NodeId} {node : CommandNode Action},
      tree.node? id = some node → id = .root ∧ node = .ofRoot declaration := by
    intro id node nodeEq
    rw [nodesEq] at nodeEq
    split at nodeEq
    · rename_i isRoot
      exact ⟨isRoot, by simpa using nodeEq.symm⟩
    · cases nodeEq
  refine ⟨sound, ⟨.ofRoot declaration, by simp [nodesEq], rfl⟩, ?_, ?_, ?_, ?_, ?_⟩
  · intro id node nodeEq
    rcases only nodeEq with ⟨rfl, rfl⟩
    rfl
  · intro id node nodeEq below
    exact absurd (only nodeEq).1 below
  · intro id node key child nodeEq entryMem
    rcases only nodeEq with ⟨rfl, rfl⟩
    simp [CommandNode.ofRoot] at entryMem
  · intro id node arity handler nodeEq handlerMem
    rcases only nodeEq with ⟨rfl, rfl⟩
    simp [CommandNode.ofRoot] at handlerMem
  · intro id node nodeEq
    rcases only nodeEq with ⟨rfl, rfl⟩
    simp [CommandNode.ofRoot, CommandNode.KeysAscend]

/-- Where nodes keep their places, an entry still leads to a child that has a code for its key. -/
theorem WellFormed.entry_kept {tree next : CommandTree Action} (wellFormed : tree.WellFormed)
    (kept : ∀ {id old}, tree.node? id = some old →
      ∃ node, next.node? id = some node ∧ node.place = old.place)
    {id child : NodeId} {old : CommandNode Action} {key : String}
    (oldEq : tree.node? id = some old) (entryMem : (key, child) ∈ old.children) :
    id.index < child.index ∧ ∃ childNode, next.node? child = some childNode ∧
      childNode.parent? = some id ∧ ∃ code ∈ childNode.codes, key = old.fold code := by
  rcases wellFormed.entry_leads oldEq entryMem with
    ⟨later, childNode, childNodeEq, parentIdEq, codeKnown⟩
  rcases kept childNodeEq with ⟨newNode, newNodeEq, samePlace⟩
  refine ⟨later, newNode, newNodeEq, ?_, ?_⟩
  · rw [CommandNode.parent?, samePlace]
    exact parentIdEq
  · rw [CommandNode.codes, samePlace]
    exact codeKnown

namespace ChildAdded

variable {tree next : CommandTree Action} {parent id : NodeId} {declaration : NodeDeclaration}
  {parentNode : CommandNode Action}

theorem parent_lt (added : ChildAdded tree next parent id declaration parentNode) :
    parent.index < id.index := by
  rw [added.id_eq]
  exact lt_size_of_node? added.parent_eq

theorem node?_child (added : ChildAdded tree next parent id declaration parentNode) :
    next.node? id = some (.ofDeclaration id parent parentNode.caseInsensitive declaration) := by
  simp [added.node_eq]

/-- A node other than the new one was there before and has changed by its entries at most. An entry
that it did not have leads from a code of the declaration to the new node. -/
theorem node_cases (added : ChildAdded tree next parent id declaration parentNode) {other : NodeId}
    {node : CommandNode Action} (nodeEq : next.node? other = some node) :
    other = id ∧ node = .ofDeclaration id parent parentNode.caseInsensitive declaration ∨
      other ≠ id ∧ ∃ old, tree.node? other = some old ∧
        node = { old with children := node.children } ∧
        ∀ entry ∈ node.children, entry ∈ old.children ∨
          other = parent ∧ entry.2 = id ∧ ∃ code ∈ declaration.codes, entry.1 = node.fold code := by
  rw [added.node_eq] at nodeEq
  by_cases isNew : other = id
  · simp only [isNew, if_true, Option.some.injEq] at nodeEq
    exact Or.inl ⟨isNew, nodeEq.symm⟩
  · right
    refine ⟨isNew, ?_⟩
    by_cases isParent : other = parent
    · subst other
      simp only [isNew, if_false, if_true, Option.some.injEq] at nodeEq
      subst node
      refine ⟨parentNode, added.parent_eq, rfl, ?_⟩
      intro entry entryMem
      rcases CommandNode.mem_assignAll entryMem with ⟨keyMem, leads⟩ | old
      · rcases List.mem_map.mp keyMem with ⟨code, codeMem, keyEq⟩
        exact Or.inr ⟨rfl, leads, code, codeMem, keyEq.symm⟩
      · exact Or.inl old
    · simp only [isNew, isParent, if_false] at nodeEq
      exact ⟨node, nodeEq, rfl, fun entry entryMem => Or.inl entryMem⟩

/-- A node that was there before is still there and has changed by its entries at most. -/
theorem node?_of_node? (added : ChildAdded tree next parent id declaration parentNode)
    {other : NodeId} {old : CommandNode Action} (oldEq : tree.node? other = some old) :
    ∃ node, next.node? other = some node ∧ node = { old with children := node.children } := by
  have notNew : other ≠ id := by
    have before := lt_size_of_node? oldEq
    rintro rfl
    simp [added.id_eq] at before
  by_cases isParent : other = parent
  · subst other
    have same : parentNode = old := by simpa [added.parent_eq] using oldEq
    subst parentNode
    exact ⟨_, by rw [added.node_eq, if_neg notNew, if_pos rfl], rfl⟩
  · exact ⟨old, by rw [added.node_eq, if_neg notNew, if_neg isParent, oldEq], rfl⟩

theorem place_kept (added : ChildAdded tree next parent id declaration parentNode) {other : NodeId}
    {old : CommandNode Action} (oldEq : tree.node? other = some old) :
    ∃ node, next.node? other = some node ∧ node.place = old.place := by
  rcases added.node?_of_node? oldEq with ⟨node, nodeEq, same⟩
  refine ⟨node, nodeEq, ?_⟩
  rw [same]

theorem wellFormed (added : ChildAdded tree next parent id declaration parentNode)
    (before : tree.WellFormed) : next.WellFormed := by
  constructor
  · rw [added.settings_eq]
    exact before.settings_sound
  · rcases before.root_eq with ⟨root, rootEq, isRoot⟩
    rcases added.node?_of_node? rootEq with ⟨node, nodeEq, same⟩
    refine ⟨node, nodeEq, ?_⟩
    rw [same]
    exact isRoot
  · intro other node nodeEq
    rcases added.node_cases nodeEq with ⟨rfl, rfl⟩ | ⟨_, old, oldEq, same, _⟩
    · rfl
    · have known := before.id_eq oldEq
      rw [same]
      exact known
  · intro other node nodeEq below
    rcases added.node_cases nodeEq with ⟨rfl, rfl⟩ | ⟨_, old, oldEq, same, _⟩
    · exact ⟨parent, declaration.codes, rfl, added.parent_lt, added.codes_ne_nil,
        added.codes_not_blank⟩
    · have known := before.place_eq oldEq below
      rw [same]
      exact known
  · intro other node key child nodeEq entryMem
    rcases added.node_cases nodeEq with ⟨rfl, rfl⟩ | ⟨_, old, oldEq, same, entryCases⟩
    · simp [CommandNode.ofDeclaration] at entryMem
    · rcases entryCases _ entryMem with known | ⟨rfl, rfl, code, codeMem, keyEq⟩
      · have leads := before.entry_kept added.place_kept oldEq known
        rw [same]
        exact leads
      · exact ⟨added.parent_lt, _, added.node?_child, rfl, code, codeMem, keyEq⟩
  · intro other node arity handler nodeEq handlerMem
    rcases added.node_cases nodeEq with ⟨rfl, rfl⟩ | ⟨_, old, oldEq, same, _⟩
    · simp [CommandNode.ofDeclaration] at handlerMem
    · rw [same] at handlerMem
      exact before.handler_fits oldEq handlerMem
  · intro other node nodeEq
    rcases added.node_cases nodeEq with ⟨rfl, rfl⟩ | ⟨_, old, oldEq, same, _⟩
    · simp [CommandNode.ofDeclaration, CommandNode.KeysAscend]
    · have known := before.keys_ascend oldEq
      rw [same]
      exact known

end ChildAdded

namespace HandlerPlaced

variable {tree next : CommandTree Action} {id : NodeId} {arity : Nat} {handler : Handler Action}
  {host : CommandNode Action}

/-- Every node was there before and has changed by its handlers at most. An entry that it did not
have is that of the new one. -/
theorem node_cases (placed : HandlerPlaced tree next id arity handler host) {other : NodeId}
    {node : CommandNode Action} (nodeEq : next.node? other = some node) :
    ∃ old, tree.node? other = some old ∧
      node = { old with handlersByArity := node.handlersByArity } ∧
      (CommandNode.KeysAscend old.handlersByArity →
        CommandNode.KeysAscend node.handlersByArity) ∧
      ∀ entry ∈ node.handlersByArity,
        entry ∈ old.handlersByArity ∨ other = id ∧ entry = (arity, handler) := by
  rw [placed.node_eq] at nodeEq
  by_cases isHost : other = id
  · subst other
    simp only [if_true, Option.some.injEq] at nodeEq
    subst node
    refine ⟨host, placed.host_eq, rfl, CommandNode.keysAscend_placeHandler arity handler, ?_⟩
    intro entry entryMem
    rcases CommandNode.mem_placeHandler entryMem with new | old
    · exact Or.inr ⟨rfl, new⟩
    · exact Or.inl old
  · simp only [isHost, if_false] at nodeEq
    exact ⟨node, nodeEq, rfl, fun ascend => ascend, fun entry entryMem => Or.inl entryMem⟩

/-- A node that was there before is still there and has changed by its handlers at most. -/
theorem node?_of_node? (placed : HandlerPlaced tree next id arity handler host) {other : NodeId}
    {old : CommandNode Action} (oldEq : tree.node? other = some old) :
    ∃ node, next.node? other = some node ∧
      node = { old with handlersByArity := node.handlersByArity } := by
  by_cases isHost : other = id
  · subst other
    have same : host = old := by simpa [placed.host_eq] using oldEq
    subst host
    exact ⟨_, by rw [placed.node_eq, if_pos rfl], rfl⟩
  · exact ⟨old, by rw [placed.node_eq, if_neg isHost, oldEq], rfl⟩

theorem place_kept (placed : HandlerPlaced tree next id arity handler host) {other : NodeId}
    {old : CommandNode Action} (oldEq : tree.node? other = some old) :
    ∃ node, next.node? other = some node ∧ node.place = old.place := by
  rcases placed.node?_of_node? oldEq with ⟨node, nodeEq, same⟩
  refine ⟨node, nodeEq, ?_⟩
  rw [same]

theorem wellFormed (placed : HandlerPlaced tree next id arity handler host)
    (fits : handler.arity = arity ∧ handler.node = id ∧ handler.argumentHelp.length = arity)
    (before : tree.WellFormed) : next.WellFormed := by
  constructor
  · rw [placed.settings_eq]
    exact before.settings_sound
  · rcases before.root_eq with ⟨root, rootEq, isRoot⟩
    rcases placed.node?_of_node? rootEq with ⟨node, nodeEq, same⟩
    refine ⟨node, nodeEq, ?_⟩
    rw [same]
    exact isRoot
  · intro other node nodeEq
    rcases placed.node_cases nodeEq with ⟨old, oldEq, same, _⟩
    have known := before.id_eq oldEq
    rw [same]
    exact known
  · intro other node nodeEq below
    rcases placed.node_cases nodeEq with ⟨old, oldEq, same, _⟩
    have known := before.place_eq oldEq below
    rw [same]
    exact known
  · intro other node key child nodeEq entryMem
    rcases placed.node_cases nodeEq with ⟨old, oldEq, same, _⟩
    rw [same] at entryMem
    have leads := before.entry_kept placed.place_kept oldEq entryMem
    rw [same]
    exact leads
  · intro other node key present nodeEq entryMem
    rcases placed.node_cases nodeEq with ⟨old, oldEq, _, _, entryCases⟩
    rcases entryCases _ entryMem with known | ⟨rfl, same⟩
    · exact before.handler_fits oldEq known
    · cases same
      exact fits
  · intro other node nodeEq
    rcases placed.node_cases nodeEq with ⟨old, oldEq, _, ascends, _⟩
    exact ascends (before.keys_ascend oldEq)

end HandlerPlaced

/-- Every reachable tree is well formed. -/
theorem Reachable.wellFormed {tree : CommandTree Action} (reachable : tree.Reachable) :
    tree.WellFormed := by
  apply Reachable.invariant _ _ _ reachable
  · exact wellFormed_of_ofRoot
  · intro tree next parent id declaration parentNode before added
    exact added.wellFormed before
  · intro tree next id declaration action node before placed
    refine placed.wellFormed ⟨rfl, rfl, ?_⟩ before
    simp [Handler.ofDeclaration]

namespace WellFormed

variable {tree : CommandTree Action} {id child : NodeId} {node childNode : CommandNode Action}
  {code : String}

theorem code_not_blank (wellFormed : tree.WellFormed) (nodeEq : tree.node? id = some node)
    (codeMem : code ∈ node.codes) : isBlankString code = false := by
  by_cases isRoot : id = .root
  · rcases wellFormed.root_eq with ⟨root, rootEq, placeEq⟩
    have same : root = node := by simpa [isRoot, rootEq] using nodeEq
    subst root
    have placeEq : node.place = .root := by simpa [CommandNode.isRoot] using placeEq
    simp [CommandNode.codes, placeEq] at codeMem
  · rcases wellFormed.place_eq nodeEq isRoot with ⟨parent, codes, placeEq, _, _, notBlank⟩
    simp only [CommandNode.codes, placeEq] at codeMem
    exact notBlank code codeMem

/-- The child that answers to a code comes after the node and has a code of the same form. -/
theorem childId?_leads (wellFormed : tree.WellFormed) (nodeEq : tree.node? id = some node)
    (childEq : node.childId? code = some child) :
    id.index < child.index ∧ ∃ childNode, tree.node? child = some childNode ∧
      childNode.parent? = some id ∧ ∃ own ∈ childNode.codes, node.fold code = node.fold own := by
  exact wellFormed.entry_leads nodeEq (mem_of_lookup childEq)

/-- A handler that a node finds for a number of arguments has as many parameters and help texts, and
belongs to the node. -/
theorem handler?_fits (wellFormed : tree.WellFormed) {arity : Nat} {handler : Handler Action}
    (nodeEq : tree.node? id = some node) (handlerEq : node.handler? arity = some handler) :
    handler.node = id ∧ handler.parameters.length = arity ∧
      handler.argumentHelp.length = arity := by
  rcases wellFormed.handler_fits nodeEq (mem_of_lookup handlerEq) with
    ⟨arityEq, handlerNode, helpLength⟩
  exact ⟨handlerNode, arityEq, helpLength⟩

theorem arity_eq (wellFormed : tree.WellFormed) {arity : Nat} {handler : Handler Action}
    (handlerEq : tree.handler? id arity = some handler) : handler.arity = arity := by
  rcases Option.bind_eq_some_iff.mp handlerEq with ⟨node, nodeEq, found⟩
  exact (wellFormed.handler?_fits nodeEq found).2.1

theorem handler_node (wellFormed : tree.WellFormed) {handler : Handler Action}
    (nodeEq : tree.node? id = some node) (handlerMem : handler ∈ node.handlers) :
    handler.node = id := by
  rcases List.mem_map.mp handlerMem with ⟨⟨arity, _⟩, entryMem, rfl⟩
  exact (wellFormed.handler_fits nodeEq entryMem).2.1

/-- Each handler of a node is found under the number of its parameters. -/
theorem handler?_of_handlers (wellFormed : tree.WellFormed) {handler : Handler Action}
    (nodeEq : tree.node? id = some node) (handlerMem : handler ∈ node.handlers) :
    node.handler? handler.arity = some handler := by
  rcases List.mem_map.mp handlerMem with ⟨⟨arity, _⟩, entryMem, rfl⟩
  rw [(wellFormed.handler_fits nodeEq entryMem).1]
  exact CommandNode.handler?_of_mem (wellFormed.keys_ascend nodeEq) entryMem

theorem handlers_ascend (wellFormed : tree.WellFormed) (nodeEq : tree.node? id = some node) :
    CommandNode.Ascending node.handlers := by
  apply CommandNode.ascending_of_keysAscend (wellFormed.keys_ascend nodeEq)
  intro entry entryMem
  exact (wellFormed.handler_fits nodeEq entryMem).1

/-- No child answers to an empty code. -/
theorem childId?_empty (wellFormed : tree.WellFormed) (nodeEq : tree.node? id = some node) :
    node.childId? "" = none := by
  cases childEq : node.childId? "" with
  | none => rfl
  | some child =>
    rcases wellFormed.childId?_leads nodeEq childEq with
      ⟨_, childNode, childNodeEq, _, own, ownMem, sameForm⟩
    have empty : own = "" := by
      rw [← node.fold_eq_empty_iff, ← sameForm, node.fold_eq_empty_iff]
    have blank := wellFormed.code_not_blank childNodeEq ownMem
    simp [empty, isBlankString] at blank

end WellFormed

end CommandTree

end Switchboard
