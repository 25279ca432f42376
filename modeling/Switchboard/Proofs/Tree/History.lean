import Switchboard.Proofs.Tree.WellFormed

/-!
# The history of a tree

A tree is built by steps, some of which fail. The steps that succeed are written down in their
order, and what can be seen of the tree is read off this list: the last child that claims a key of
a node is the one that the key leads to, and the last handler for an arity of a node is the one that
answers. The keys and the arities that a step takes away are those that are taken in the list.
-/

namespace Switchboard

variable {Action : Type}

namespace Addition

/-- The node that is added to. -/
def host : Addition Action → NodeId
  | child _ parent _ => parent
  | handler node _ _ => node

/-- The child that an addition puts under a key of a node with a given form of codes. -/
def childUnder? (parent : NodeId) (fold : String → String) (key : String) :
    Addition Action → Option NodeId
  | child id host declaration =>
    if host = parent ∧ ∃ code ∈ declaration.codes, fold code = key then some id else none
  | handler _ _ _ => none

/-- The handler that an addition gives a node for a number of arguments. -/
def handlerFor? (node : NodeId) (arity : Nat) : Addition Action → Option (Handler Action)
  | child _ _ _ => none
  | handler host declaration action =>
    if host = node ∧ declaration.arity = arity then
      some (.ofDeclaration node declaration action)
    else
      none

/-- The number of arguments of the handler that an addition gives a node. -/
def arityOn? (node : NodeId) : Addition Action → Option Nat
  | child _ _ _ => none
  | handler host declaration _ => if host = node then some declaration.arity else none

theorem childUnder?_of_host_ne {addition : Addition Action} {parent : NodeId}
    (elsewhere : addition.host ≠ parent) (fold : String → String) (key : String) :
    addition.childUnder? parent fold key = none := by
  cases addition with
  | child id host declaration =>
    have different : host ≠ parent := elsewhere
    simp [childUnder?, different]
  | handler node declaration action => rfl

theorem handlerFor?_of_host_ne {addition : Addition Action} {node : NodeId}
    (elsewhere : addition.host ≠ node) (arity : Nat) : addition.handlerFor? node arity = none := by
  cases addition with
  | child id parent declaration => rfl
  | handler host declaration action =>
    have different : host ≠ node := elsewhere
    simp [handlerFor?, different]

theorem arityOn?_eq_some_iff {addition : Addition Action} {node : NodeId} {arity : Nat} :
    addition.arityOn? node = some arity ↔ (addition.handlerFor? node arity).isSome := by
  cases addition with
  | child id parent declaration => simp [arityOn?, handlerFor?]
  | handler host declaration action =>
    by_cases here : host = node
    · by_cases same : declaration.arity = arity <;> simp [arityOn?, handlerFor?, here, same]
    · simp [arityOn?, handlerFor?, here]

end Addition

/-- The additions to a tree in their order. -/
abbrev History (Action : Type) :=
  List (Addition Action)

namespace History

/-- The last child under a key of a node. -/
def child? (history : History Action) (parent : NodeId) (fold : String → String) (key : String) :
    Option NodeId :=
  (history.filterMap (Addition.childUnder? parent fold key)).getLast?

/-- The last handler of a node for a number of arguments. -/
def handler? (history : History Action) (node : NodeId) (arity : Nat) : Option (Handler Action) :=
  (history.filterMap (Addition.handlerFor? node arity)).getLast?

/-- The highest number of arguments among the handlers of a node. -/
def maxArity? (history : History Action) (node : NodeId) : Option Nat :=
  (history.filterMap (Addition.arityOn? node)).max?

variable (history : History Action) (addition : Addition Action)

theorem child?_concat (parent : NodeId) (fold : String → String) (key : String) :
    child? (history ++ [addition]) parent fold key =
      (addition.childUnder? parent fold key).or (history.child? parent fold key) := by
  cases claimed : addition.childUnder? parent fold key <;> simp [child?, claimed]

theorem handler?_concat (node : NodeId) (arity : Nat) :
    handler? (history ++ [addition]) node arity =
      (addition.handlerFor? node arity).or (history.handler? node arity) := by
  cases given : addition.handlerFor? node arity <;> simp [handler?, given]

end History

namespace BuildStep

/-- What a step asks of a tree: its node exists, and a child has codes that are not blank. -/
def Admitted (tree : CommandTree Action) : BuildStep Action → Prop
  | addChild parent declaration =>
    declaration.codes ≠ [] ∧ (∀ code ∈ declaration.codes, isBlankString code = false) ∧
      (tree.node? parent).isSome
  | register node _ _ => (tree.node? node).isSome

theorem attempt_of_error {tree : CommandTree Action} {step : BuildStep Action} {error : TreeError}
    (failed : step.apply tree = .error error) : step.attempt tree = tree := by
  simp [attempt, failed]

theorem addition?_of_error {tree : CommandTree Action} {step : BuildStep Action} {error : TreeError}
    (failed : step.apply tree = .error error) : step.addition? tree = none := by
  cases step with
  | addChild parent declaration =>
    cases added : tree.addChild parent declaration with
    | error error => simp [addition?, added]
    | ok result => simp [apply, added, Except.map] at failed
  | register node declaration action =>
    rw [apply] at failed
    simp [addition?, failed]

/-- A step succeeds exactly when it is admitted. -/
theorem admitted_iff {tree : CommandTree Action} {step : BuildStep Action} :
    step.Admitted tree ↔ ∃ result, step.apply tree = .ok result := by
  constructor
  · intro admitted
    cases step with
    | addChild parent declaration =>
      rcases admitted with ⟨codesNeNil, codesNotBlank, known⟩
      have notBlank : declaration.codes.any isBlankString = false := by
        simpa using codesNotBlank
      rcases Option.isSome_iff_exists.mp known with ⟨parentNode, parentEq⟩
      simp [apply, CommandTree.addChild, codesNeNil, notBlank, parentEq, Except.map]
    | register node declaration action =>
      rcases Option.isSome_iff_exists.mp admitted with ⟨host, hostEq⟩
      simp [apply, CommandTree.register, hostEq]
  · rintro ⟨⟨next, warnings⟩, applied⟩
    cases step with
    | addChild parent declaration =>
      cases added : tree.addChild parent declaration with
      | error error => simp [apply, added, Except.map] at applied
      | ok result =>
        rcases CommandTree.childAdded_of_addChild added with ⟨parentNode, childAdded, _⟩
        exact ⟨childAdded.codes_ne_nil, childAdded.codes_not_blank, by simp [childAdded.parent_eq]⟩
    | register node declaration action =>
      rcases CommandTree.handlerPlaced_of_register applied with ⟨host, placed, _⟩
      simp [Admitted, placed.host_eq]

end BuildStep

namespace CommandTree

/-- A key of a node leads to a new child if the child claims it, and otherwise where it led. -/
theorem ChildAdded.lookup_eq {tree next : CommandTree Action} {parent id other : NodeId}
    {declaration : NodeDeclaration} {parentNode node : CommandNode Action}
    (added : ChildAdded tree next parent id declaration parentNode)
    (nodeEq : next.node? other = some node) (notNew : other ≠ id) (key : String) :
    ∃ old, tree.node? other = some old ∧ node.fold = old.fold ∧
      node.children.lookup key =
        ((Addition.child id parent declaration : Addition Action).childUnder? other old.fold key).or
          (old.children.lookup key) := by
  rw [added.node_eq, if_neg notNew] at nodeEq
  split at nodeEq
  · rename_i isParent
    subst other
    cases nodeEq
    refine ⟨parentNode, added.parent_eq, rfl, ?_⟩
    rw [CommandNode.lookup_assignAll]
    by_cases claimed : ∃ code ∈ declaration.codes, parentNode.fold code = key
    · simp [Addition.childUnder?, claimed]
    · simp [Addition.childUnder?, claimed]
  · rename_i elsewhere
    refine ⟨node, nodeEq, rfl, ?_⟩
    rw [Addition.childUnder?_of_host_ne (Ne.symm elsewhere), Option.none_or]

/-- A number of arguments is answered by a new handler if the handler takes so many, and otherwise
as it was. -/
theorem HandlerPlaced.handler?_eq {tree next : CommandTree Action} {id other : NodeId}
    {declaration : HandlerDeclaration} {action : Action} {host node : CommandNode Action}
    (placed : HandlerPlaced tree next id declaration.arity (.ofDeclaration id declaration action)
      host)
    (nodeEq : next.node? other = some node) (arity : Nat) :
    ∃ old, tree.node? other = some old ∧
      node.handler? arity =
        ((Addition.handler id declaration action).handlerFor? other arity).or
          (old.handler? arity) := by
  rw [placed.node_eq] at nodeEq
  split at nodeEq
  · rename_i isHost
    subst other
    cases nodeEq
    refine ⟨host, placed.host_eq, ?_⟩
    rw [CommandNode.handler?, CommandNode.lookup_placeHandler]
    by_cases same : declaration.arity = arity
    · simp [Addition.handlerFor?, same]
    · simp [Addition.handlerFor?, same, Ne.symm same, CommandNode.handler?]
  · rename_i elsewhere
    refine ⟨node, nodeEq, ?_⟩
    rw [Addition.handlerFor?_of_host_ne (Ne.symm elsewhere), Option.none_or]

/-- The additions of the steps that succeed. -/
def log (tree : CommandTree Action) : List (BuildStep Action) → History Action
  | [] => []
  | step :: rest => (step.addition? tree).toList ++ log (step.attempt tree) rest

/-- What can be seen of a tree is what its history says. -/
structure Follows (tree : CommandTree Action) (history : History Action) : Prop where
  host_lt : ∀ addition ∈ history, addition.host.index < tree.size
  lookup_eq : ∀ {id node}, tree.node? id = some node → ∀ key,
    node.children.lookup key = history.child? id node.fold key
  handler?_eq : ∀ {id node}, tree.node? id = some node → ∀ arity,
    node.handler? arity = history.handler? id arity

/-- Nothing was added to a node before it was there. -/
theorem Follows.none_of_new {tree : CommandTree Action} {history : History Action}
    (follows : Follows tree history) {id : NodeId} (new : tree.size ≤ id.index) :
    (∀ fold key, history.child? id fold key = none) ∧
      ∀ arity, history.handler? id arity = none := by
  have elsewhere : ∀ addition ∈ history, addition.host ≠ id := by
    intro addition additionMem same
    have known := follows.host_lt addition additionMem
    rw [same] at known
    omega
  constructor
  · intro fold key
    have nothing : history.filterMap (Addition.childUnder? id fold key) = [] :=
      List.filterMap_eq_nil_iff.mpr fun addition additionMem =>
        Addition.childUnder?_of_host_ne (elsewhere addition additionMem) fold key
    simp [History.child?, nothing]
  · intro arity
    have nothing : history.filterMap (Addition.handlerFor? id arity) = [] :=
      List.filterMap_eq_nil_iff.mpr fun addition additionMem =>
        Addition.handlerFor?_of_host_ne (elsewhere addition additionMem) arity
    simp [History.handler?, nothing]

theorem follows_nil_of_ofRoot {declaration : RootDeclaration} {tree : CommandTree Action}
    (created : CommandTree.ofRoot declaration = .ok tree) : Follows tree [] := by
  rcases node?_of_ofRoot created with ⟨_, _, nodesEq⟩
  refine ⟨by simp, ?_, ?_⟩
  · intro id node nodeEq key
    rw [nodesEq] at nodeEq
    split at nodeEq
    · cases nodeEq
      rfl
    · cases nodeEq
  · intro id node nodeEq arity
    rw [nodesEq] at nodeEq
    split at nodeEq
    · cases nodeEq
      rfl
    · cases nodeEq

theorem Follows.childAdded {tree next : CommandTree Action} {history : History Action}
    {parent id : NodeId} {declaration : NodeDeclaration} {parentNode : CommandNode Action}
    (follows : Follows tree history)
    (added : ChildAdded tree next parent id declaration parentNode) :
    Follows next (history ++ [.child id parent declaration]) := by
  have new : tree.size ≤ id.index := by simp [added.id_eq]
  refine ⟨?_, ?_, ?_⟩
  · intro addition additionMem
    rw [added.size_eq]
    rcases List.mem_append.mp additionMem with earlier | last
    · have known := follows.host_lt addition earlier
      omega
    · rw [List.mem_singleton.mp last]
      have known := lt_size_of_node? added.parent_eq
      change parent.index < tree.size + 1
      omega
  · intro other node nodeEq key
    rw [History.child?_concat]
    by_cases isNew : other = id
    · subst other
      have fresh := added.node?_child
      rw [nodeEq, Option.some.injEq] at fresh
      have elsewhere : (Addition.child id parent declaration : Addition Action).host ≠ id := by
        have before := added.parent_lt
        intro same
        rw [← same] at before
        exact Nat.lt_irrefl _ before
      rw [fresh, Addition.childUnder?_of_host_ne elsewhere, (follows.none_of_new new).1]
      rfl
    · rcases added.lookup_eq nodeEq isNew key with ⟨old, oldEq, sameFold, lookupEq⟩
      rw [lookupEq, sameFold, follows.lookup_eq oldEq]
  · intro other node nodeEq arity
    rw [History.handler?_concat]
    simp only [Addition.handlerFor?, Option.none_or]
    rcases added.node_cases nodeEq with ⟨rfl, rfl⟩ | ⟨_, old, oldEq, same, _⟩
    · rw [(follows.none_of_new new).2]
      rfl
    · rw [← follows.handler?_eq oldEq, same]
      rfl

theorem Follows.handlerPlaced {tree next : CommandTree Action} {history : History Action}
    {id : NodeId} {declaration : HandlerDeclaration} {action : Action} {host : CommandNode Action}
    (follows : Follows tree history)
    (placed : HandlerPlaced tree next id declaration.arity (.ofDeclaration id declaration action)
      host) :
    Follows next (history ++ [.handler id declaration action]) := by
  refine ⟨?_, ?_, ?_⟩
  · intro addition additionMem
    rw [placed.size_eq]
    rcases List.mem_append.mp additionMem with earlier | last
    · exact follows.host_lt addition earlier
    · rw [List.mem_singleton.mp last]
      exact lt_size_of_node? placed.host_eq
  · intro other node nodeEq key
    rw [History.child?_concat]
    simp only [Addition.childUnder?, Option.none_or]
    rcases placed.node_cases nodeEq with ⟨old, oldEq, same, _⟩
    have known := follows.lookup_eq oldEq key
    rw [same]
    exact known
  · intro other node nodeEq arity
    rcases placed.handler?_eq nodeEq arity with ⟨old, oldEq, handlerAtEq⟩
    rw [History.handler?_concat, handlerAtEq, follows.handler?_eq oldEq]

theorem Follows.made {tree next : CommandTree Action} {history : History Action}
    {addition : Addition Action} (follows : Follows tree history)
    (made : addition.Made tree next) : Follows next (history ++ [addition]) := by
  cases addition with
  | child id parent declaration =>
    rcases made with ⟨parentNode, added⟩
    exact follows.childAdded added
  | handler node declaration action =>
    rcases made with ⟨host, placed⟩
    exact follows.handlerPlaced placed

/-- What every addition keeps of a tree and its history, steps keep of them. -/
theorem build_keeps {holds : CommandTree Action → History Action → Prop}
    (kept : ∀ {tree next : CommandTree Action} {history : History Action}
      {addition : Addition Action}, holds tree history → addition.Made tree next →
        holds next (history ++ [addition]))
    {tree : CommandTree Action} {history : History Action} (start : holds tree history)
    (steps : List (BuildStep Action)) : holds (tree.build steps) (history ++ tree.log steps) := by
  induction steps generalizing tree history with
  | nil => simpa [CommandTree.build, log] using start
  | cons step rest ih =>
    rw [log, ← List.append_assoc]
    apply ih
    cases applied : step.apply tree with
    | error error =>
      rw [BuildStep.attempt_of_error applied, BuildStep.addition?_of_error applied]
      simpa using start
    | ok result =>
      rcases result with ⟨next, warnings⟩
      have attempted : step.attempt tree = next := by simp [BuildStep.attempt, applied]
      rcases BuildStep.made_of_apply applied with ⟨addition, additionEq, made⟩
      rw [attempted, additionEq]
      exact kept start made

/-- Steps keep a tree to its history. -/
theorem Follows.build {tree : CommandTree Action} {history : History Action}
    (follows : Follows tree history) (steps : List (BuildStep Action)) :
    Follows (tree.build steps) (history ++ tree.log steps) :=
  build_keeps Follows.made follows steps

/-- The highest arity of a node is the highest one in its history. -/
theorem Follows.maxArity?_eq {tree : CommandTree Action} {history : History Action}
    (follows : Follows tree history) (wellFormed : tree.WellFormed) {id : NodeId}
    {node : CommandNode Action} (nodeEq : tree.node? id = some node) :
    node.maxArity? = history.maxArity? id := by
  have sameArities : ∀ arity, arity ∈ node.handlersByArity.map Prod.fst ↔
      arity ∈ history.filterMap (Addition.arityOn? id) := by
    intro arity
    calc
      arity ∈ node.handlersByArity.map Prod.fst ↔ (node.handler? arity).isSome := by
        simp [CommandNode.handler?]
      _ ↔ (history.handler? id arity).isSome := by
        rw [follows.handler?_eq nodeEq]
      _ ↔ arity ∈ history.filterMap (Addition.arityOn? id) := by
        simp [History.handler?, Addition.arityOn?_eq_some_iff, Option.isSome_iff_ne_none]
  rw [CommandNode.maxArity?, CommandNode.getLast?_eq_max? (wellFormed.keys_ascend nodeEq),
    History.maxArity?]
  apply Option.ext
  intro highest
  rw [List.max?_eq_some_iff, List.max?_eq_some_iff]
  simp only [sameArities]

theorem Follows.tree_handler?_eq {tree : CommandTree Action} {history : History Action}
    (follows : Follows tree history) (id : NodeId) (arity : Nat) :
    tree.handler? id arity = history.handler? id arity := by
  cases nodeEq : tree.node? id with
  | none =>
    have new : tree.size ≤ id.index := by
      rw [← Nat.not_lt, ← node?_isSome_iff]
      simp [nodeEq]
    simp [handler?, nodeEq, (follows.none_of_new new).2]
  | some node => simp [handler?, nodeEq, follows.handler?_eq nodeEq]

/-- The keys that a new child takes away are those that the history gives to other children. -/
theorem Follows.replacement?_eq {tree next : CommandTree Action} {history : History Action}
    {parent id : NodeId} {declaration : NodeDeclaration} {parentNode : CommandNode Action}
    (follows : Follows tree history) (wellFormed : tree.WellFormed)
    (added : ChildAdded tree next parent id declaration parentNode) (key : String) :
    CommandNode.replacement? parent id parentNode.children key =
      (history.child? parent parentNode.fold key).map fun previous =>
        .codeReplaced key parent previous id := by
  rw [CommandNode.replacement?, ← follows.lookup_eq added.parent_eq]
  cases held : parentNode.children.lookup key with
  | none => rfl
  | some previous =>
    have other : previous ≠ id := by
      rcases wellFormed.entry_leads added.parent_eq (mem_of_lookup held) with
        ⟨_, childNode, childNodeEq, _⟩
      have known := lt_size_of_node? childNodeEq
      rintro rfl
      simp [added.id_eq] at known
    simp [other]

/-- What can be seen of a tree is decided by the steps that have succeeded, the last of them going
first, and so is what a further step takes away. A step that fails changes nothing. -/
theorem build_follows_log {rootDeclaration : RootDeclaration} {root : CommandTree Action}
    (created : CommandTree.ofRoot rootDeclaration = .ok root) (steps : List (BuildStep Action)) :
    (∀ id node, (root.build steps).node? id = some node →
      (∀ code, node.childId? code = (root.log steps).child? id node.fold (node.fold code)) ∧
        node.maxArity? = (root.log steps).maxArity? id) ∧
    (∀ id arity, (root.build steps).handler? id arity = (root.log steps).handler? id arity) ∧
    (∀ step : BuildStep Action,
      ((∃ error, step.apply (root.build steps) = .error error) ↔
        ¬step.Admitted (root.build steps)) ∧
      (¬step.Admitted (root.build steps) →
        step.attempt (root.build steps) = root.build steps)) ∧
    (∀ parent declaration next id warnings,
      (root.build steps).addChild parent declaration = .ok (next, id, warnings) →
      ∃ parentNode, (root.build steps).node? parent = some parentNode ∧
        warnings = (root.build steps).unreachableCodes declaration.codes ++
          (declaration.codes.map parentNode.fold).eraseDups.filterMap fun key =>
            ((root.log steps).child? parent parentNode.fold key).map fun previous =>
              .codeReplaced key parent previous id) ∧
    ∀ id declaration action next warnings,
      (root.build steps).register id declaration action = .ok (next, warnings) →
      ∃ node, (root.build steps).node? id = some node ∧
        warnings = match (root.log steps).handler? id declaration.arity with
          | some _ => [.handlerReplaced id (node.primaryCode?.getD "<root>") declaration.arity]
          | none => [] := by
  have wellFormed := ((Reachable.ofRoot created).build steps).wellFormed
  have follows : Follows (root.build steps) (root.log steps) :=
    (follows_nil_of_ofRoot created).build steps
  refine ⟨?_, follows.tree_handler?_eq, ?_, ?_, ?_⟩
  · intro id node nodeEq
    exact ⟨fun code => follows.lookup_eq nodeEq (node.fold code),
      follows.maxArity?_eq wellFormed nodeEq⟩
  · intro step
    rw [BuildStep.admitted_iff]
    cases applied : step.apply (root.build steps) with
    | error error => simp [BuildStep.attempt_of_error applied]
    | ok result => simp
  · intro parent declaration next id warnings succeeded
    rcases childAdded_of_addChild succeeded with ⟨parentNode, added, warningsEq⟩
    refine ⟨parentNode, added.parent_eq, ?_⟩
    rw [warningsEq, CommandNode.assignAll_warnings]
    congr 2
    funext key
    exact follows.replacement?_eq wellFormed added key
  · intro id declaration action next warnings succeeded
    rcases handlerPlaced_of_register succeeded with ⟨node, placed, warningsEq⟩
    refine ⟨node, placed.host_eq, ?_⟩
    rw [← follows.handler?_eq placed.host_eq]
    exact warningsEq

/-- A further child takes a code away from the command with two codes, and takes it once though it
repeats this code in another case. -/
theorem build_follows_log_calculator :
    ∃ root next id warnings, calculator.node? .root = some root ∧
      root.childId? "CALC" = some ⟨1⟩ ∧ root.maxArity? = none ∧
      (calculator.handler? ⟨2⟩ 1).isSome ∧
      calculator.addChild .root { codes := ["C", "x/y", "c"] } = .ok (next, id, warnings) ∧
      warnings = [.unreachableCode "x/y" "/", .codeReplaced "c" .root ⟨1⟩ id] := by
  rcases build_follows_log calculatorRoot_created calculatorSteps with
    ⟨nodes, handlers, _, children, _⟩
  have succeeds : ∃ result,
      calculator.addChild .root { codes := ["C", "x/y", "c"] } = .ok result := ⟨_, rfl⟩
  rcases succeeds with ⟨⟨next, id, warnings⟩, added⟩
  rcases children _ _ _ _ _ added with ⟨root, rootEq, warningsEq⟩
  rcases nodes .root root rootEq with ⟨childIdEq, maxArityEq⟩
  refine ⟨root, next, id, warnings, rootEq, ?_, ?_, ?_, added, ?_⟩
  · cases rootEq
    rw [childIdEq]
    decide
  · rw [maxArityEq]
    decide
  · rw [calculator, handlers]
    decide
  · cases rootEq
    rw [warningsEq]
    rfl

end CommandTree

end Switchboard
