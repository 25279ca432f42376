import Switchboard.Proofs.Tree.CodePaths
import Switchboard.Proofs.Tree.History

/-!
# Codes that are taken over

The child that a code leads to is the last one that was added with it. So the codes that a usage of
a node is made from lead back to the node as long as no later child has taken one of them over, and
every child that takes a code over is warned about.
-/

namespace Switchboard

variable {Action : Type}

/-- Whether a warning tells that a code was taken over. -/
def TreeWarning.replacesCode : TreeWarning → Bool
  | codeReplaced _ _ _ _ => true
  | unreachableCode _ _ | handlerReplaced _ _ _ => false

/-- The child that an addition makes. -/
def Addition.created? : Addition Action → Option NodeId
  | child id _ _ => some id
  | handler _ _ _ => none

/-- A key leads to a child because of the addition of this child. -/
theorem Addition.childUnder?_eq_some_iff {addition : Addition Action} {parent id : NodeId}
    {fold : String → String} {key : String} :
    addition.childUnder? parent fold key = some id ↔
      ∃ declaration, addition = .child id parent declaration ∧
        ∃ code ∈ declaration.codes, fold code = key := by
  cases addition with
  | handler host declaration action => simp [childUnder?]
  | child other host declaration =>
    simp only [childUnder?, Option.ite_none_right_eq_some, Option.some.injEq, Addition.child.injEq]
    constructor
    · rintro ⟨⟨rfl, claimed⟩, rfl⟩
      exact ⟨declaration, ⟨rfl, rfl, rfl⟩, claimed⟩
    · rintro ⟨_, ⟨rfl, rfl, rfl⟩, claimed⟩
      exact ⟨⟨rfl, claimed⟩, rfl⟩

/-- After a child of a node, another child of this node was added with a code of the same form as a
code of the first one. -/
def History.Overtaken (history : History Action) (above below : CommandNode Action)
    (code : String) : Prop :=
  ∃ before after declaration,
    history = before ++ .child below.id above.id declaration :: after ∧
      ∃ other otherDeclaration, .child other above.id otherDeclaration ∈ after ∧
        ∃ otherCode ∈ otherDeclaration.codes, above.fold otherCode = above.fold code

namespace CommandTree

/-- The nodes below the root are the children that were added, each where it was added. -/
structure Records (tree : CommandTree Action) (history : History Action) : Prop where
  created_distinct : (history.filterMap Addition.created?).Nodup
  mem_created_iff : ∀ {id}, id ∈ history.filterMap Addition.created? ↔
    id ≠ .root ∧ id.index < tree.size
  place_eq : ∀ {id parent declaration}, .child id parent declaration ∈ history →
    ∃ node, tree.node? id = some node ∧ node.place = .below parent declaration.codes

variable {tree next : CommandTree Action} {history : History Action} {id parent : NodeId}

theorem records_nil_of_ofRoot {declaration : RootDeclaration}
    (created : CommandTree.ofRoot declaration = .ok tree) : Records tree [] := by
  rcases node?_of_ofRoot created with ⟨_, _, nodesEq⟩
  refine ⟨by simp, ?_, by simp⟩
  intro id
  rw [← node?_isSome_iff, nodesEq]
  by_cases isRoot : id = .root <;> simp [isRoot]

theorem Records.childAdded {declaration : NodeDeclaration} {parentNode : CommandNode Action}
    (records : Records tree history)
    (added : ChildAdded tree next parent id declaration parentNode) :
    Records next (history ++ [.child id parent declaration]) := by
  have createdEq :
      (history ++ [Addition.child id parent declaration]).filterMap Addition.created? =
        history.filterMap Addition.created? ++ [id] := by
    simp [Addition.created?]
  have idEq := added.id_eq
  have parentLt := added.parent_lt
  refine ⟨?_, ?_, ?_⟩
  · have new : id ∉ history.filterMap Addition.created? := by
      rw [records.mem_created_iff]
      simp [idEq]
    rw [createdEq, List.nodup_append]
    refine ⟨records.created_distinct, List.nodup_singleton id, ?_⟩
    intro earlier earlierMem last lastMem
    simp only [List.mem_singleton] at lastMem
    rintro rfl
    exact new (lastMem ▸ earlierMem)
  · rintro ⟨index⟩
    rw [createdEq, List.mem_append, records.mem_created_iff, added.size_eq, List.mem_singleton]
    simp only [idEq, NodeId.root, ne_eq, NodeId.mk.injEq] at parentLt ⊢
    omega
  · intro other host otherDeclaration additionMem
    simp only [List.mem_append, List.mem_singleton] at additionMem
    rcases additionMem with earlier | last
    · rcases records.place_eq earlier with ⟨old, oldEq, placeEq⟩
      rcases added.place_kept oldEq with ⟨node, nodeEq, samePlace⟩
      exact ⟨node, nodeEq, samePlace.trans placeEq⟩
    · cases last
      exact ⟨_, added.node?_child, rfl⟩

theorem Records.handlerPlaced {arity : Nat} {handler : Handler Action}
    {declaration : HandlerDeclaration} {action : Action} {host : CommandNode Action}
    (records : Records tree history) (placed : HandlerPlaced tree next id arity handler host) :
    Records next (history ++ [.handler id declaration action]) := by
  have createdEq :
      (history ++ [Addition.handler id declaration action]).filterMap Addition.created? =
        history.filterMap Addition.created? := by
    simp [Addition.created?]
  refine ⟨?_, ?_, ?_⟩
  · rw [createdEq]
    exact records.created_distinct
  · intro other
    rw [createdEq, placed.size_eq]
    exact records.mem_created_iff
  · intro other parent otherDeclaration additionMem
    simp only [List.mem_append, List.mem_singleton, reduceCtorEq, or_false] at additionMem
    rcases records.place_eq additionMem with ⟨old, oldEq, placeEq⟩
    rcases placed.place_kept oldEq with ⟨node, nodeEq, samePlace⟩
    exact ⟨node, nodeEq, samePlace.trans placeEq⟩

theorem Records.made {addition : Addition Action} (records : Records tree history)
    (made : addition.Made tree next) : Records next (history ++ [addition]) := by
  cases addition with
  | child id parent declaration =>
    rcases made with ⟨parentNode, added⟩
    exact records.childAdded added
  | handler node declaration action =>
    rcases made with ⟨host, placed⟩
    exact records.handlerPlaced placed

/-- A node below the root was added once. -/
theorem Records.exists_addition (records : Records tree history) {node : CommandNode Action}
    (nodeEq : tree.node? id = some node) (parentIdEq : node.parent? = some parent)
    (below : id ≠ .root) :
    ∃ before after declaration, history = before ++ .child id parent declaration :: after ∧
      declaration.codes = node.codes ∧ id ∉ before.filterMap Addition.created? ∧
        id ∉ after.filterMap Addition.created? := by
  have created := records.mem_created_iff.mpr ⟨below, lt_size_of_node? nodeEq⟩
  rcases List.mem_filterMap.mp created with ⟨addition, additionMem, createdEq⟩
  cases addition with
  | handler host declaration action => cases createdEq
  | child other host declaration =>
    cases createdEq
    rcases records.place_eq additionMem with ⟨known, knownEq, placeEq⟩
    simp only [nodeEq, Option.some.injEq] at knownEq
    subst knownEq
    have sameParent : host = parent := by
      simpa [CommandNode.parent?, placeEq] using parentIdEq
    subst sameParent
    rcases List.append_of_mem additionMem with ⟨before, after, rfl⟩
    have distinct := records.created_distinct
    simp only [List.filterMap_append, List.filterMap_cons, Addition.created?, List.nodup_middle,
      List.nodup_cons, List.mem_append, not_or] at distinct
    have codesEq : declaration.codes = node.codes := by simp [CommandNode.codes, placeEq]
    exact ⟨before, after, declaration, rfl, codesEq, distinct.1⟩

/-- What was added after a child is the same however the child is found in the history. -/
theorem after_eq_of_split {first second : Addition Action} {before after front back :
    History Action} (splitEq : before ++ first :: after = front ++ second :: back)
    (secondCreated : second.created? = some id)
    (notBefore : id ∉ before.filterMap Addition.created?)
    (notAfter : id ∉ after.filterMap Addition.created?) : back = after := by
  -- Where the two splits differ, one of them has the child in its front or in its rest.
  rcases List.append_eq_append_iff.mp splitEq with
    ⟨middle, rfl, restEq⟩ | ⟨middle, rfl, restEq⟩
  · cases middle with
    | nil =>
      simp only [List.nil_append, List.cons.injEq] at restEq
      exact restEq.2.symm
    | cons head others =>
      simp only [List.cons_append, List.cons.injEq] at restEq
      simp [restEq.2, secondCreated] at notAfter
  · cases middle with
    | nil =>
      simp only [List.nil_append, List.cons.injEq] at restEq
      exact restEq.2
    | cons head others =>
      simp only [List.cons_append, List.cons.injEq] at restEq
      simp [← restEq.1, secondCreated] at notBefore

variable {above below : CommandNode Action} {code : String}

/-- A code of a child is overtaken exactly if an addition after the child claims its form. -/
theorem overtaken_iff_of_split {before after : History Action} {declaration : NodeDeclaration}
    (splitEq : history = before ++ .child below.id above.id declaration :: after)
    (notBefore : below.id ∉ before.filterMap Addition.created?)
    (notAfter : below.id ∉ after.filterMap Addition.created?) :
    history.Overtaken above below code ↔ ∃ other, other ∈ after.filterMap
      (Addition.childUnder? above.id above.fold (above.fold code)) := by
  simp only [List.mem_filterMap, Addition.childUnder?_eq_some_iff]
  constructor
  · rintro ⟨front, back, _, otherSplit, other, otherDeclaration, otherMem, claimed⟩
    have backEq := after_eq_of_split (splitEq.symm.trans otherSplit) rfl notBefore notAfter
    subst backEq
    exact ⟨other, _, otherMem, otherDeclaration, rfl, claimed⟩
  · rintro ⟨other, _, otherMem, otherDeclaration, rfl, claimed⟩
    exact ⟨before, after, declaration, splitEq, other, otherDeclaration, otherMem, claimed⟩

/-- A code of a child leads to it exactly if it was not taken over. -/
theorem Records.childId?_eq_some_iff (records : Records tree history)
    (follows : Follows tree history) (wellFormed : tree.WellFormed)
    (asks : tree.Asks above below code) :
    above.childId? code = some below.id ↔ ¬history.Overtaken above below code := by
  rcases records.exists_addition asks.below_eq asks.parent?_eq (asks.not_root wellFormed) with
    ⟨before, after, declaration, historyEq, codesEq, notBefore, notAfter⟩
  let claims := after.filterMap (Addition.childUnder? above.id above.fold (above.fold code))
  have childEq : above.childId? code = claims.getLast?.or (some below.id) := by
    have own : (Addition.child below.id above.id declaration : Addition Action).childUnder?
        above.id above.fold (above.fold code) = some below.id := by
      rw [Addition.childUnder?_eq_some_iff]
      exact ⟨declaration, rfl, code, codesEq ▸ asks.code_mem, rfl⟩
    rw [CommandNode.childId?, follows.lookup_eq asks.above_eq, History.child?, historyEq,
      List.filterMap_append, List.filterMap_cons_some own, List.getLast?_append,
      List.getLast?_cons]
    cases claims.getLast? <;> simp
  have notOwn : below.id ∉ claims := by
    simp only [claims, List.mem_filterMap, Addition.childUnder?_eq_some_iff]
    rintro ⟨_, otherMem, otherDeclaration, rfl, _⟩
    exact notAfter (List.mem_filterMap.mpr ⟨_, otherMem, rfl⟩)
  have overtakenIff : history.Overtaken above below code ↔ ∃ other, other ∈ claims :=
    overtaken_iff_of_split historyEq notBefore notAfter
  rw [overtakenIff, childEq]
  cases lastEq : claims.getLast? with
  | none => simp [List.getLast?_eq_none_iff.mp lastEq]
  | some other =>
    have otherMem := List.mem_of_getLast? lastEq
    have different : other ≠ below.id := by
      rintro rfl
      exact notOwn otherMem
    simp only [Option.some_or, Option.some.injEq, different, false_iff, not_not]
    exact ⟨other, otherMem⟩

/-- What the steps that succeed warn about. -/
def warnings (tree : CommandTree Action) : List (BuildStep Action) → List TreeWarning
  | [] => []
  | step :: rest =>
    (match step.apply tree with
      | .ok (_, warned) => warned
      | .error _ => []) ++ warnings (step.attempt tree) rest

/-- Every code of every child leads to the child. -/
def Unreplaced (tree : CommandTree Action) : Prop :=
  ∀ above below code, tree.Asks above below code → above.childId? code = some below.id

theorem unreplaced_of_ofRoot {declaration : RootDeclaration}
    (created : CommandTree.ofRoot declaration = .ok tree) : tree.Unreplaced := by
  rcases node?_of_ofRoot created with ⟨_, _, nodesEq⟩
  intro above below code asks
  have belowEq := asks.below_eq
  rw [nodesEq] at belowEq
  split at belowEq
  · cases belowEq
    cases asks.parent?_eq
  · cases belowEq

section NewChild

variable {declaration : NodeDeclaration} {parentNode : CommandNode Action}

/-- What is asked of an older child was asked before there was a new one. -/
theorem ChildAdded.asks_before {id parent : NodeId} (wellFormed : tree.WellFormed)
    (added : ChildAdded tree next parent id declaration parentNode)
    (asks : next.Asks above below code) (older : below.id ≠ id) {oldAbove : CommandNode Action}
    (oldAboveEq : tree.node? above.id = some oldAbove) :
    ∃ old, tree.Asks oldAbove old code ∧ old.id = below.id := by
  rcases added.node_cases asks.below_eq with ⟨isNew, _⟩ | ⟨_, old, oldEq, same, _⟩
  · exact absurd isNew older
  · have aboveId := wellFormed.id_eq oldAboveEq
    have oldId := wellFormed.id_eq oldEq
    have samePlace : below.place = old.place := by rw [same]
    have parentIdEq := asks.parent?_eq
    have codeMem := asks.code_mem
    rw [CommandNode.parent?, samePlace] at parentIdEq
    rw [CommandNode.codes, samePlace] at codeMem
    refine ⟨old, ⟨?_, ?_, ?_, codeMem⟩, oldId⟩
    · rwa [aboveId]
    · rwa [oldId]
    · rwa [aboveId]

/-- A new child whose codes are free takes nothing over. -/
theorem Unreplaced.childAdded {id parent : NodeId} (unreplaced : tree.Unreplaced)
    (wellFormed : tree.WellFormed)
    (added : ChildAdded tree next parent id declaration parentNode)
    (free : ∀ code ∈ declaration.codes, CommandNode.replacement? parent id parentNode.children
      (parentNode.fold code) = none) : next.Unreplaced := by
  intro above below code asks
  have known : above.id ≠ id := by
    have earlier := asks.lt_size (added.wellFormed wellFormed)
    intro isNew
    simp [isNew, added.id_eq, added.size_eq] at earlier
  rcases added.lookup_eq asks.above_eq known (above.fold code) with
    ⟨oldAbove, oldAboveEq, sameFold, lookupEq⟩
  rw [CommandNode.childId?, lookupEq]
  by_cases isNew : below.id = id
  · -- The new child has just claimed its codes.
    have belowEq := asks.below_eq
    simp only [isNew, added.node?_child, Option.some.injEq] at belowEq
    subst belowEq
    have claimed : (Addition.child id parent declaration : Addition Action).childUnder? above.id
        oldAbove.fold (above.fold code) = some id := by
      rw [Addition.childUnder?_eq_some_iff, sameFold, ← Option.some.inj asks.parent?_eq]
      exact ⟨declaration, rfl, code, asks.code_mem, rfl⟩
    simp [claimed, isNew]
  · rcases added.asks_before wellFormed asks isNew oldAboveEq with ⟨old, oldAsks, oldId⟩
    have oldLeads : oldAbove.children.lookup (above.fold code) = some below.id := by
      rw [sameFold, ← oldId]
      exact unreplaced _ _ _ oldAsks
    cases claimed : (Addition.child id parent declaration : Addition Action).childUnder? above.id
        oldAbove.fold (above.fold code) with
    | none => simp [oldLeads]
    | some other =>
      -- The key was free, but it led to the older child.
      rcases Addition.childUnder?_eq_some_iff.mp claimed with ⟨_, same, own, ownMem, sameForm⟩
      simp only [Addition.child.injEq] at same
      rcases same with ⟨_, rfl, rfl⟩
      have parentEq := added.parent_eq
      simp only [oldAboveEq, Option.some.injEq] at parentEq
      subst parentEq
      have taken := free own ownMem
      simp [CommandNode.replacement?, sameForm, oldLeads, isNew] at taken

end NewChild

theorem Unreplaced.handlerPlaced {id : NodeId} {arity : Nat} {handler : Handler Action}
    {host : CommandNode Action} (unreplaced : tree.Unreplaced)
    (placed : HandlerPlaced tree next id arity handler host) : next.Unreplaced := by
  intro above below code asks
  rcases placed.node_cases asks.above_eq with ⟨oldAbove, oldAboveEq, aboveSame, _⟩
  rcases placed.node_cases asks.below_eq with ⟨oldBelow, oldBelowEq, belowSame, _⟩
  have aboveId : above.id = oldAbove.id := by rw [aboveSame]
  have belowId : below.id = oldBelow.id := by rw [belowSame]
  have childEq : above.childId? code = oldAbove.childId? code := by
    rw [aboveSame]
    rfl
  have parentIdEq := asks.parent?_eq
  have codeMem := asks.code_mem
  rw [belowSame] at parentIdEq codeMem
  rw [childEq, belowId]
  refine unreplaced _ _ _ ⟨?_, ?_, ?_, codeMem⟩
  · rwa [← aboveId]
  · rwa [← belowId]
  · rwa [← aboveId]

/-- A step that takes no code over leaves every code with its child. -/
theorem Unreplaced.step (unreplaced : tree.Unreplaced) (wellFormed : tree.WellFormed)
    {step : BuildStep Action} {warned : List TreeWarning}
    (applied : step.apply tree = .ok (next, warned))
    (harmless : ∀ warning ∈ warned, warning.replacesCode = false) : next.Unreplaced := by
  cases step with
  | register node declaration action =>
    rcases handlerPlaced_of_register applied with ⟨host, placed, _⟩
    exact unreplaced.handlerPlaced placed
  | addChild parent declaration =>
    cases added : tree.addChild parent declaration with
    | error error => simp [BuildStep.apply, added, Except.map] at applied
    | ok result =>
      rcases result with ⟨grown, id, others⟩
      simp only [BuildStep.apply, added, Except.map, Except.ok.injEq, Prod.mk.injEq] at applied
      rcases applied with ⟨rfl, rfl⟩
      rcases childAdded_of_addChild added with ⟨parentNode, childAdded, warnedEq⟩
      apply unreplaced.childAdded wellFormed childAdded
      intro code codeMem
      rw [warnedEq, CommandNode.assignAll_warnings] at harmless
      cases taken : CommandNode.replacement? parent id parentNode.children
          (parentNode.fold code) with
      | none => rfl
      | some warning =>
        have warned := harmless warning (by
          simp only [List.mem_append, List.mem_filterMap, List.mem_eraseDups, List.mem_map]
          exact Or.inr ⟨_, ⟨code, codeMem, rfl⟩, taken⟩)
        rw [CommandNode.replacement?] at taken
        rcases Option.bind_eq_some_iff.mp taken with ⟨previous, _, onward⟩
        split at onward
        · cases onward
        · cases onward
          cases warned

theorem Unreplaced.build (unreplaced : tree.Unreplaced) (reachable : tree.Reachable)
    {steps : List (BuildStep Action)}
    (harmless : ∀ warning ∈ tree.warnings steps, warning.replacesCode = false) :
    (tree.build steps).Unreplaced := by
  induction steps generalizing tree with
  | nil => exact unreplaced
  | cons step rest ih =>
    simp only [warnings, List.forall_mem_append] at harmless
    refine ih ?_ (reachable.attempt step) harmless.2
    cases applied : step.apply tree with
    | error error => rwa [BuildStep.attempt_of_error applied]
    | ok result =>
      rcases result with ⟨next, warned⟩
      have attempted : step.attempt tree = next := by simp [BuildStep.attempt, applied]
      rw [attempted]
      simp only [applied] at harmless
      exact unreplaced.step reachable.wellFormed applied harmless.1

/-- A choice of codes that a usage of a node is made from leads back to the node exactly if none of
its codes was taken over where it is asked for. Without any warning of a replacement this is so for
every usage. -/
theorem find?_combination_iff {rootDeclaration : RootDeclaration} {root : CommandTree Action}
    (created : CommandTree.ofRoot rootDeclaration = .ok root) (steps : List (BuildStep Action))
    {id : NodeId} {node : CommandNode Action}
    (nodeEq : (root.build steps).node? id = some node) :
    (root.build steps).nodeUsages node =
      ((root.build steps).combinations node).map (fun chosen =>
        (root.build steps).joinMain ((root.build steps).settings.lead :: chosen)) ∧
    ∀ chosen ∈ (root.build steps).combinations node,
      ((root.build steps).find? chosen = some id ↔
        EveryStep (fun above below code => ¬(root.log steps).Overtaken above below code)
          ((root.build steps).lineage node).reverse chosen) ∧
      ((∀ warning ∈ root.warnings steps, warning.replacesCode = false) →
        (root.build steps).find? chosen = some id) := by
  have reachable := (Reachable.ofRoot created).build steps
  have wellFormed := reachable.wellFormed
  have ancestry := (wellFormed.ancestry_lineage nodeEq).1
  refine ⟨nodeUsages_eq_map_combinations _ node, ?_⟩
  intro chosen chosenMem
  have leadsIff := wellFormed.find?_eq_some_iff ancestry nodeEq chosenMem
  have asks := wellFormed.everyStep_asks ancestry nodeEq chosenMem
  constructor
  · have follows : Follows (root.build steps) (root.log steps) :=
      (follows_nil_of_ofRoot created).build steps
    have records : Records (root.build steps) (root.log steps) :=
      build_keeps Records.made (records_nil_of_ofRoot created) steps
    rw [leadsIff]
    apply EveryStep.congr
    intro position above below code aboveEq belowEq codeEq
    exact records.childId?_eq_some_iff follows wellFormed
      (asks position above below code aboveEq belowEq codeEq)
  · intro harmless
    have unreplaced := (unreplaced_of_ofRoot created).build (.ofRoot created) harmless
    rw [leadsIff]
    intro position above below code aboveEq belowEq codeEq
    exact unreplaced _ _ _ (asks position above below code aboveEq belowEq codeEq)

/-- The steps of the calculator, and a further command that takes one of the two codes of the first
one over. -/
def takeoverSteps : List (BuildStep Unit) :=
  calculatorSteps ++ [.addChild .root { codes := ["C"] }]

theorem find?_combination_iff_calculator :
    (∃ node, (calculatorRoot.build calculatorSteps).node? ⟨2⟩ = some node ∧
      ["c", "sub"] ∈ (calculatorRoot.build calculatorSteps).combinations node ∧
      (∀ warning ∈ calculatorRoot.warnings calculatorSteps, warning.replacesCode = false) ∧
      (calculatorRoot.build calculatorSteps).find? ["c", "sub"] = some ⟨2⟩) ∧
    ∃ node, (calculatorRoot.build takeoverSteps).node? ⟨2⟩ = some node ∧
      ["Calc", "sub"] ∈ (calculatorRoot.build takeoverSteps).combinations node ∧
      ["c", "sub"] ∈ (calculatorRoot.build takeoverSteps).combinations node ∧
      EveryStep (fun above below code =>
          ¬(calculatorRoot.log takeoverSteps).Overtaken above below code)
        ((calculatorRoot.build takeoverSteps).lineage node).reverse ["Calc", "sub"] ∧
      (calculatorRoot.build takeoverSteps).find? ["c", "sub"] ≠ some ⟨2⟩ := by
  have before : ∃ node, (calculatorRoot.build calculatorSteps).node? ⟨2⟩ = some node ∧
      ["c", "sub"] ∈ (calculatorRoot.build calculatorSteps).combinations node :=
    ⟨_, rfl, by decide⟩
  have after : ∃ node, (calculatorRoot.build takeoverSteps).node? ⟨2⟩ = some node ∧
      ["Calc", "sub"] ∈ (calculatorRoot.build takeoverSteps).combinations node ∧
      ["c", "sub"] ∈ (calculatorRoot.build takeoverSteps).combinations node ∧
      ∃ top command, ((calculatorRoot.build takeoverSteps).lineage node).reverse[0]? = some top ∧
        ((calculatorRoot.build takeoverSteps).lineage node).reverse[1]? = some command ∧
        top.id = .root ∧ command.id = ⟨1⟩ ∧ top.fold "C" = top.fold "c" :=
    ⟨_, rfl, by decide, by decide, _, _, rfl, rfl, rfl, rfl, by decide⟩
  rcases before with ⟨node, nodeEq, chosenMem⟩
  rcases after with ⟨sub, subEq, calcMem, cMem, top, command, topEq, commandEq, topId,
    commandId, folds⟩
  have harmless : ∀ warning ∈ calculatorRoot.warnings calculatorSteps,
      warning.replacesCode = false := by decide
  have overtaken : (calculatorRoot.log takeoverSteps).Overtaken top command "c" := by
    refine ⟨[], (calculatorRoot.log takeoverSteps).tail, { codes := ["Calc", "c"] }, ?_, ⟨3⟩,
      { codes := ["C"] }, ?_, "C", by simp, folds⟩
    · rw [topId, commandId]
      rfl
    · rw [topId]
      have lastEq : (calculatorRoot.log takeoverSteps).tail[4]? =
          some (.child ⟨3⟩ .root { codes := ["C"] }) := rfl
      exact List.mem_of_getElem? lastEq
  have kept := (find?_combination_iff calculatorRoot_created calculatorSteps nodeEq).2 _ chosenMem
  rcases find?_combination_iff calculatorRoot_created takeoverSteps subEq with ⟨_, leads⟩
  refine ⟨⟨node, nodeEq, chosenMem, harmless, kept.2 harmless⟩, sub, subEq, calcMem, cMem,
    (leads _ calcMem).1.mp (by decide +kernel), ?_⟩
  intro found
  exact (leads _ cMem).1.mp found 0 top command "c" topEq commandEq rfl overtaken

end CommandTree

end Switchboard
