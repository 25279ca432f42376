import Switchboard.Proofs.Tree.Ways
import Switchboard.Tree.Usage

/-!
# Paths of declared codes

A usage string is made from codes that the nodes on a way were declared with, one for each node. The
same codes are a path from the root. It leads to the node exactly if each code leads one step down
the way: a path that leaves the way never comes back, since a node is a child of its parent only.
-/

namespace Switchboard

variable {Action : Type}

namespace CommandTree

/-- The codes of the nodes on a way, of which the root has none. -/
def codesAlong (way : List (CommandNode Action)) : List (List String) :=
  (way.filter (!·.isRoot)).map CommandNode.codes

/-- The choices of one code for each node on the way to a node. -/
def combinations (tree : CommandTree Action) (node : CommandNode Action) : List (List String) :=
  choices (codesAlong (tree.lineage node)) []

theorem nodeUsages_eq_map_combinations (tree : CommandTree Action) (node : CommandNode Action) :
    tree.nodeUsages node = (tree.combinations node).map fun chosen =>
      tree.joinMain (tree.settings.lead :: chosen) :=
  rfl

theorem choices_eq_map (options : List (List String)) (chosen : List String) :
    choices options chosen = (choices options []).map (· ++ chosen) := by
  induction options generalizing chosen with
  | nil => simp [choices]
  | cons first rest ih =>
    simp only [choices, List.map_flatMap]
    apply List.flatMap_congr
    intro option _
    rw [ih, ih [option], List.map_map]
    simp [Function.comp_def]

/-- A choice from several lists ends with what is chosen from the first one. -/
theorem mem_choices_cons {first chosen : List String} {rest : List (List String)} :
    chosen ∈ choices (first :: rest) [] ↔
      ∃ front code, chosen = front ++ [code] ∧ code ∈ first ∧ front ∈ choices rest [] := by
  simp only [choices, List.mem_flatMap]
  constructor
  · rintro ⟨code, codeMem, chosenMem⟩
    rw [choices_eq_map, List.mem_map] at chosenMem
    rcases chosenMem with ⟨front, frontMem, rfl⟩
    exact ⟨front, code, rfl, codeMem, frontMem⟩
  · rintro ⟨front, code, rfl, codeMem, frontMem⟩
    refine ⟨code, codeMem, ?_⟩
    rw [choices_eq_map]
    exact List.mem_map_of_mem frontMem

/-- A predicate holds of every step of a way down: of the node above, the node below and the code
that was chosen for it. -/
def EveryStep (holds : CommandNode Action → CommandNode Action → String → Prop)
    (way : List (CommandNode Action)) (chosen : List String) : Prop :=
  ∀ (position : Nat) (above below : CommandNode Action) (code : String),
    way[position]? = some above → way[position + 1]? = some below →
      chosen[position]? = some code → holds above below code

variable {tree : CommandTree Action} {id : NodeId} {node parentNode : CommandNode Action}
  {way : List (CommandNode Action)} {chosen : List String} {code : String}
  {holds : CommandNode Action → CommandNode Action → String → Prop}

theorem everyStep_concat (lengthEq : chosen.length = way.length) :
    EveryStep holds (way ++ [parentNode] ++ [node]) (chosen ++ [code]) ↔
      EveryStep holds (way ++ [parentNode]) chosen ∧ holds parentNode node code := by
  constructor
  · intro all
    constructor
    · intro position above below step aboveEq belowEq stepEq
      have inside : position < chosen.length := by
        by_contra outside
        simp [Nat.le_of_not_lt outside] at stepEq
      apply all position above below step
      · rwa [List.getElem?_append_left (by simp; omega)]
      · rwa [List.getElem?_append_left (by simp; omega)]
      · rwa [List.getElem?_append_left inside]
    · apply all way.length <;> simp [← lengthEq]
  · rintro ⟨front, last⟩ position above below step aboveEq belowEq stepEq
    rcases Nat.lt_trichotomy position chosen.length with inside | rfl | outside
    · rw [List.getElem?_append_left (by simp; omega)] at aboveEq belowEq
      rw [List.getElem?_append_left inside] at stepEq
      exact front position above below step aboveEq belowEq stepEq
    · simp only [lengthEq, List.append_assoc] at aboveEq belowEq
      simp at aboveEq belowEq stepEq
      rw [← aboveEq, ← belowEq, ← stepEq]
      exact last
    · rw [List.getElem?_eq_none (by simp; omega)] at stepEq
      cases stepEq

/-- A choice of codes along a way is one along the way above with a code of the node. -/
theorem mem_choices_through {parent : NodeId} (parentIdEq : node.parent? = some parent) :
    chosen ∈ choices (codesAlong (node :: way)) [] ↔
      ∃ front code, chosen = front ++ [code] ∧ code ∈ node.codes ∧
        front ∈ choices (codesAlong way) [] := by
  have below : node.isRoot = false := by
    by_contra isRoot
    simp [parent?_of_isRoot (by simpa using isRoot)] at parentIdEq
  rw [codesAlong, List.filter_cons_of_pos (by simp [below]), List.map_cons, mem_choices_cons]
  rfl

theorem mem_choices_root (isRoot : node.isRoot = true) :
    chosen ∈ choices (codesAlong [node]) [] ↔ chosen = [] := by
  simp [codesAlong, isRoot, choices]

theorem Ancestry.exists_cons (ancestry : tree.Ancestry node way) :
    ∃ above, way = node :: above := by
  cases ancestry with
  | root _ => exact ⟨[], rfl⟩
  | through _ _ _ => exact ⟨_, rfl⟩

/-- A choice of codes has one code fewer than the way has nodes. -/
theorem Ancestry.length_eq (ancestry : tree.Ancestry node way)
    (chosenMem : chosen ∈ choices (codesAlong way) []) : chosen.length + 1 = way.length := by
  induction ancestry generalizing chosen with
  | root isRoot => simp [(mem_choices_root isRoot).mp chosenMem]
  | through parentIdEq parentEq onward ih =>
    rcases (mem_choices_through parentIdEq).mp chosenMem with ⟨front, code, rfl, _, frontMem⟩
    simp [← ih frontMem]

/-- A path that comes to a node has come through the parent of the node. -/
theorem WellFormed.find?_concat_eq_some_iff (wellFormed : tree.WellFormed) {parent : NodeId}
    {path : List String} (nodeEq : tree.node? id = some node)
    (parentIdEq : node.parent? = some parent) (parentEq : tree.node? parent = some parentNode) :
    tree.find? (path ++ [code]) = some id ↔
      tree.find? path = some parent ∧ parentNode.childId? code = some id := by
  rw [find?_concat]
  constructor
  · intro found
    rcases Option.bind_eq_some_iff.mp found with ⟨above, aboveFound, onward⟩
    rcases Option.bind_eq_some_iff.mp onward with ⟨aboveNode, aboveEq, childEq⟩
    rcases wellFormed.childId?_leads aboveEq childEq with ⟨_, childNode, childNodeEq, known, _⟩
    have same : above = parent := by
      simp only [nodeEq, Option.some.injEq] at childNodeEq
      simpa [← childNodeEq, parentIdEq] using known.symm
    subst same
    simp only [parentEq, Option.some.injEq] at aboveEq
    subst aboveEq
    exact ⟨aboveFound, childEq⟩
  · rintro ⟨aboveFound, childEq⟩
    simp [aboveFound, parentEq, childEq]

/-- A choice of codes leads to its node exactly if each of the codes leads one step down the way. -/
theorem WellFormed.find?_eq_some_iff (wellFormed : tree.WellFormed)
    (ancestry : tree.Ancestry node way) (nodeEq : tree.node? id = some node)
    (chosenMem : chosen ∈ choices (codesAlong way) []) :
    tree.find? chosen = some id ↔
      EveryStep (fun above below code => above.childId? code = some below.id) way.reverse
        chosen := by
  induction ancestry generalizing id chosen with
  | @root node isRoot =>
    have top := (wellFormed.isRoot_iff nodeEq).mp isRoot
    have nothing := (mem_choices_root isRoot).mp chosenMem
    subst top nothing
    simp [find?, EveryStep]
  | @through node parentNode parent way parentIdEq parentEq onward ih =>
    rcases (mem_choices_through parentIdEq).mp chosenMem with ⟨front, code, rfl, _, frontMem⟩
    have upward := ih parentEq frontMem
    have lengthEq := onward.length_eq frontMem
    rcases onward.exists_cons with ⟨above, rfl⟩
    simp only [List.reverse_cons] at upward ⊢
    rw [wellFormed.find?_concat_eq_some_iff nodeEq parentIdEq parentEq, upward,
      everyStep_concat (by simpa using lengthEq), wellFormed.id_eq nodeEq]

/-- A code of a child that its parent is asked for. -/
structure Asks (tree : CommandTree Action) (above below : CommandNode Action) (code : String) :
    Prop where
  above_eq : tree.node? above.id = some above
  below_eq : tree.node? below.id = some below
  parent?_eq : below.parent? = some above.id
  code_mem : code ∈ below.codes

theorem Asks.not_root (asks : tree.Asks parentNode node code) (wellFormed : tree.WellFormed) :
    node.id ≠ .root := by
  intro isRoot
  have orphan := (wellFormed.parent?_eq_none_iff asks.below_eq).mpr isRoot
  simp [asks.parent?_eq] at orphan

/-- A node that has a child is older than the newest node. -/
theorem Asks.lt_size (asks : tree.Asks parentNode node code) (wellFormed : tree.WellFormed) :
    parentNode.id.index + 1 < tree.size := by
  rcases wellFormed.parent?_eq asks.below_eq (asks.not_root wellFormed) with
    ⟨parent, _, parentIdEq, earlier, _⟩
  have same : parentNode.id = parent := Option.some.inj (asks.parent?_eq.symm.trans parentIdEq)
  have inside := lt_size_of_node? asks.below_eq
  rw [same]
  omega

/-- Each step down a way asks the node above for a code of the node below. -/
theorem WellFormed.everyStep_asks (wellFormed : tree.WellFormed)
    (ancestry : tree.Ancestry node way) (nodeEq : tree.node? id = some node)
    (chosenMem : chosen ∈ choices (codesAlong way) []) :
    EveryStep tree.Asks way.reverse chosen := by
  induction ancestry generalizing id chosen with
  | @root node isRoot => simp [(mem_choices_root isRoot).mp chosenMem, EveryStep]
  | @through node parentNode parent way parentIdEq parentEq onward ih =>
    rcases (mem_choices_through parentIdEq).mp chosenMem with
      ⟨front, code, rfl, codeMem, frontMem⟩
    have upward := ih parentEq frontMem
    have lengthEq := onward.length_eq frontMem
    rcases onward.exists_cons with ⟨above, rfl⟩
    simp only [List.reverse_cons] at upward ⊢
    rw [everyStep_concat (by simpa using lengthEq)]
    have parentId := wellFormed.id_eq parentEq
    have nodeId := wellFormed.id_eq nodeEq
    refine ⟨upward, ?_, ?_, ?_, codeMem⟩
    · rwa [parentId]
    · rwa [nodeId]
    · rwa [parentId]

theorem EveryStep.congr {other : CommandNode Action → CommandNode Action → String → Prop}
    (agree : EveryStep (fun above below code => holds above below code ↔ other above below code)
      way chosen) : EveryStep holds way chosen ↔ EveryStep other way chosen := by
  constructor
  · intro all position above below code aboveEq belowEq codeEq
    exact (agree position above below code aboveEq belowEq codeEq).mp
      (all position above below code aboveEq belowEq codeEq)
  · intro all position above below code aboveEq belowEq codeEq
    exact (agree position above below code aboveEq belowEq codeEq).mpr
      (all position above below code aboveEq belowEq codeEq)

end CommandTree

end Switchboard
