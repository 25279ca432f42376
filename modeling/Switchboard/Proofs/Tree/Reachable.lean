import Switchboard.Proofs.Tree.Entries

/-!
# Reachable trees

The trees that assembly can produce, and the invariant that they share. A step of the assembly is
described once by what it does to the nodes of a tree. Everything else about reachable trees
follows from these descriptions: parents come before their children, an entry leads to a child that
knows the node as its parent and has a code for the key, and handlers stand where they belong.
-/

namespace Switchboard

variable {Action : Type}

/-- The tree after a step. A step that fails leaves it as it is. -/
def BuildStep.attempt (tree : CommandTree Action) (step : BuildStep Action) : CommandTree Action :=
  match step.apply tree with
  | .ok (next, _) => next
  | .error _ => tree

namespace CommandTree

/-- The tree after steps, any of which may fail. -/
def build (tree : CommandTree Action) (steps : List (BuildStep Action)) : CommandTree Action :=
  steps.foldl BuildStep.attempt tree

/-- The trees that steps of the assembly produce from the declaration of a root. -/
inductive Reachable : CommandTree Action → Prop where
  | ofRoot {declaration : RootDeclaration} {tree : CommandTree Action}
      (created : CommandTree.ofRoot declaration = .ok tree) : Reachable tree
  | step {tree next : CommandTree Action} {step : BuildStep Action} {warnings : List TreeWarning}
      (reachable : Reachable tree) (applied : step.apply tree = .ok (next, warnings)) :
      Reachable next

theorem node?_isSome_iff {tree : CommandTree Action} {id : NodeId} :
    (tree.node? id).isSome ↔ id.index < tree.size := by
  simp [node?, size]

theorem lt_size_of_node? {tree : CommandTree Action} {id : NodeId} {node : CommandNode Action}
    (nodeEq : tree.node? id = some node) : id.index < tree.size :=
  node?_isSome_iff.mp (by simp [nodeEq])

theorem node?_modify (settings : TreeSettings) (nodes : Array (CommandNode Action))
    (change : CommandNode Action → CommandNode Action) (host other : NodeId) :
    node? ⟨settings, nodes.modify host.index change⟩ other =
      if other = host then (node? ⟨settings, nodes⟩ other).map change
      else node? ⟨settings, nodes⟩ other := by
  rcases host with ⟨host⟩
  rcases other with ⟨other⟩
  simp [node?, Array.getElem?_modify, eq_comm]

theorem node?_push (settings : TreeSettings) (nodes : Array (CommandNode Action))
    (node : CommandNode Action) (other : NodeId) :
    node? ⟨settings, nodes.push node⟩ other =
      if other = ⟨nodes.size⟩ then some node else node? ⟨settings, nodes⟩ other := by
  rcases other with ⟨other⟩
  simp [node?, Array.getElem?_push]

/-- A fresh tree has sound settings and no node but its root. -/
theorem node?_of_ofRoot {declaration : RootDeclaration} {tree : CommandTree Action}
    (created : CommandTree.ofRoot declaration = .ok tree) :
    tree.settings = ⟨declaration.lead, declaration.delimiters⟩ ∧ tree.settings.fault? = none ∧
      ∀ id, tree.node? id = if id = .root then some (.ofRoot declaration) else none := by
  simp only [ofRoot] at created
  split at created
  · cases created
  · rename_i sound
    simp only [Except.ok.injEq] at created
    subst tree
    refine ⟨rfl, sound, ?_⟩
    rintro ⟨index⟩
    cases index <;> simp [node?, NodeId.root]

/-- A tree that differs from another one by a new child of a node. -/
structure ChildAdded (tree next : CommandTree Action) (parent id : NodeId)
    (declaration : NodeDeclaration) (parentNode : CommandNode Action) : Prop where
  /-- The node that gets the child. -/
  parent_eq : tree.node? parent = some parentNode
  /-- The position of the child comes after all others. -/
  id_eq : id = ⟨tree.size⟩
  codes_ne_nil : declaration.codes ≠ []
  codes_not_blank : ∀ code ∈ declaration.codes, isBlankString code = false
  settings_eq : next.settings = tree.settings
  size_eq : next.size = tree.size + 1
  /-- Only the child and its parent are not what they were. -/
  node_eq : ∀ other, next.node? other =
    if other = id then
      some (.ofDeclaration id parent parentNode.caseInsensitive declaration)
    else if other = parent then
      some { parentNode with children :=
        (CommandNode.assignAll parent id parentNode.children
          (declaration.codes.map parentNode.fold)).1 }
    else
      tree.node? other

/-- A tree that differs from another one by a handler that a node keeps under an arity. -/
structure HandlerPlaced (tree next : CommandTree Action) (id : NodeId) (arity : Nat)
    (handler : Handler Action) (node : CommandNode Action) : Prop where
  /-- The node that gets the handler. -/
  host_eq : tree.node? id = some node
  settings_eq : next.settings = tree.settings
  size_eq : next.size = tree.size
  /-- Only the node with the handler is not what it was. -/
  node_eq : ∀ other, next.node? other =
    if other = id then
      some { node with
        handlersByArity := CommandNode.placeHandler arity handler node.handlersByArity }
    else
      tree.node? other

theorem childAdded_of_addChild {tree next : CommandTree Action} {parent id : NodeId}
    {declaration : NodeDeclaration} {warnings : List TreeWarning}
    (added : tree.addChild parent declaration = .ok (next, id, warnings)) :
    ∃ parentNode, ChildAdded tree next parent id declaration parentNode ∧
      warnings = tree.unreachableCodes declaration.codes ++
        (CommandNode.assignAll parent id parentNode.children
          (declaration.codes.map parentNode.fold)).2 := by
  unfold addChild at added
  split at added
  · cases added
  · rename_i codesNeNil
    split at added
    · cases added
    · rename_i codesNotBlank
      split at added
      · cases added
      · rename_i parentNode parentEq
        simp only [Except.ok.injEq, Prod.mk.injEq] at added
        rcases added with ⟨rfl, rfl, rfl⟩
        refine ⟨parentNode, ⟨parentEq, rfl, ?_, ?_, rfl, ?_, ?_⟩, rfl⟩
        · simpa using codesNeNil
        · simpa using codesNotBlank
        · simp [size]
        · intro other
          rw [node?_push, node?_modify, Array.size_modify]
          by_cases isParent : other = parent
          · subst other
            simp [parentEq, size]
          · simp [isParent, size]

theorem handlerPlaced_of_register {tree next : CommandTree Action} {id : NodeId}
    {declaration : HandlerDeclaration} {action : Action} {warnings : List TreeWarning}
    (registered : tree.register id declaration action = .ok (next, warnings)) :
    ∃ node,
      HandlerPlaced tree next id declaration.arity (.ofDeclaration id declaration action) node ∧
      warnings = match node.handler? declaration.arity with
        | some _ => [.handlerReplaced id (node.primaryCode?.getD "<root>") declaration.arity]
        | none => [] := by
  unfold register at registered
  split at registered
  · cases registered
  · rename_i node hostEq
    simp only [Except.ok.injEq, Prod.mk.injEq] at registered
    rcases registered with ⟨rfl, rfl⟩
    refine ⟨node, ⟨hostEq, rfl, ?_, ?_⟩, rfl⟩
    · simp [size]
    · intro other
      rw [node?_modify]
      by_cases isHost : other = id
      · subst other
        simp [hostEq]
      · simp [isHost]

end CommandTree

/-- What a successful step of the assembly adds to a tree. -/
inductive Addition (Action : Type) where
  | child (id parent : NodeId) (declaration : NodeDeclaration)
  | handler (node : NodeId) (declaration : HandlerDeclaration) (action : Action)

/-- A tree that differs from another one by an addition. -/
def Addition.Made (tree next : CommandTree Action) : Addition Action → Prop
  | child id parent declaration =>
    ∃ parentNode, CommandTree.ChildAdded tree next parent id declaration parentNode
  | handler node declaration action =>
    ∃ host, CommandTree.HandlerPlaced tree next node declaration.arity
      (.ofDeclaration node declaration action) host

namespace BuildStep

/-- What a step adds to a tree, if it succeeds. -/
def addition? (tree : CommandTree Action) : BuildStep Action → Option (Addition Action)
  | addChild parent declaration =>
    match tree.addChild parent declaration with
    | .ok (_, id, _) => some (.child id parent declaration)
    | .error _ => none
  | register node declaration action =>
    match tree.register node declaration action with
    | .ok _ => some (.handler node declaration action)
    | .error _ => none

/-- A step that succeeds changes the tree by its addition. -/
theorem made_of_apply {tree next : CommandTree Action} {step : BuildStep Action}
    {warnings : List TreeWarning} (applied : step.apply tree = .ok (next, warnings)) :
    ∃ addition, step.addition? tree = some addition ∧ addition.Made tree next := by
  cases step with
  | addChild parent declaration =>
    rw [apply] at applied
    cases added : tree.addChild parent declaration with
    | error error => simp [added, Except.map] at applied
    | ok result =>
      rcases result with ⟨grown, id, warned⟩
      simp only [added, Except.map, Except.ok.injEq, Prod.mk.injEq] at applied
      rcases applied with ⟨rfl, rfl⟩
      rcases CommandTree.childAdded_of_addChild added with ⟨parentNode, childAdded, _⟩
      exact ⟨.child id parent declaration, by simp [addition?, added], parentNode, childAdded⟩
  | register node declaration action =>
    have registered : tree.register node declaration action = .ok (next, warnings) := applied
    rcases CommandTree.handlerPlaced_of_register registered with ⟨host, placed, _⟩
    exact ⟨.handler node declaration action, by simp [addition?, registered], host, placed⟩

end BuildStep

namespace CommandTree

theorem Reachable.attempt {tree : CommandTree Action} (reachable : tree.Reachable)
    (step : BuildStep Action) : (step.attempt tree).Reachable := by
  unfold BuildStep.attempt
  split
  · rename_i applied
    exact .step reachable applied
  · exact reachable

theorem Reachable.build {tree : CommandTree Action} (reachable : tree.Reachable)
    (steps : List (BuildStep Action)) : (tree.build steps).Reachable := by
  induction steps generalizing tree with
  | nil => exact reachable
  | cons step rest ih => exact ih (reachable.attempt step)

/-- The reachable trees are those that a sequence of steps leaves, whether or not all of the steps
succeed. -/
theorem reachable_iff_build {tree : CommandTree Action} :
    tree.Reachable ↔ ∃ declaration root steps,
      CommandTree.ofRoot declaration = .ok root ∧ root.build steps = tree := by
  constructor
  · intro reachable
    induction reachable with
    | ofRoot created => exact ⟨_, _, [], created, rfl⟩
    | @step tree next step warnings _ applied ih =>
      rcases ih with ⟨declaration, root, steps, created, built⟩
      refine ⟨declaration, root, steps ++ [step], created, ?_⟩
      rw [CommandTree.build, List.foldl_append]
      change step.attempt (root.build steps) = next
      rw [built, BuildStep.attempt, applied]
  · rintro ⟨declaration, root, steps, created, rfl⟩
    exact (Reachable.ofRoot created).build steps

/-- What holds of a fresh tree and is kept by every new child and every new handler holds of every
reachable tree. -/
theorem Reachable.invariant {holds : CommandTree Action → Prop}
    (fresh : ∀ {declaration tree}, CommandTree.ofRoot declaration = .ok tree → holds tree)
    (child : ∀ {tree next parent id declaration parentNode}, holds tree →
      ChildAdded tree next parent id declaration parentNode → holds next)
    (handler : ∀ {tree next id declaration action node}, holds tree →
      HandlerPlaced tree next id declaration.arity (.ofDeclaration id declaration action) node →
      holds next)
    {tree : CommandTree Action} (reachable : tree.Reachable) : holds tree := by
  induction reachable with
  | ofRoot created => exact fresh created
  | step _ applied ih =>
    rcases BuildStep.made_of_apply applied with ⟨addition, _, made⟩
    cases addition with
    | child id parent declaration =>
      rcases made with ⟨parentNode, added⟩
      exact child ih added
    | handler node declaration action =>
      rcases made with ⟨host, placed⟩
      exact handler ih placed

/-- The root of a calculator. -/
def calculatorRoot : CommandTree Unit :=
  ⟨⟨"!", ["/", "::"]⟩, #[.ofRoot { lead := "!", delimiters := ["/", "::"] }]⟩

theorem calculatorRoot_created :
    CommandTree.ofRoot { lead := "!", delimiters := ["/", "::"] } = .ok calculatorRoot :=
  rfl

/-- A command with two parameters, and below it one with no parameter or one. -/
def calculatorSteps : List (BuildStep Unit) :=
  [.addChild .root { codes := ["Calc", "c"] },
    .register ⟨1⟩ { parameters := [⟨"left", .text⟩, ⟨"right", .text⟩] } (),
    .addChild ⟨1⟩ { codes := ["sub"] },
    .register ⟨2⟩ {} (),
    .register ⟨2⟩ { parameters := [⟨"value", .text⟩] } ()]

/-- The commands of a calculator. -/
def calculator : CommandTree Unit :=
  calculatorRoot.build calculatorSteps

theorem calculator_reachable : calculator.Reachable :=
  (Reachable.ofRoot calculatorRoot_created).build calculatorSteps

end CommandTree

end Switchboard
