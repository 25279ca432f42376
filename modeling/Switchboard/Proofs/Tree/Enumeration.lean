import Mathlib.Algebra.BigOperators.Group.List.Basic
import Mathlib.Data.List.Sections
import Switchboard.Proofs.Tree.CodePaths

/-!
# Enumerations of usages

The usages of a node are made of every choice of one code for each node on the way. They come in the
order of numerals whose first digit counts least: the code next to the root varies fastest, the code
of the node itself slowest. So the place of a choice among them is a sum over its picks, and every
place belongs to one choice.

The same list results from a walk up the tree that carries the ending of a usage along and puts one
code after the other in front of it. Such a walk takes an empty text for no ending at all, which is
right only because no code is blank.
-/

namespace Switchboard

variable {Action : Type}

namespace CommandTree

/-- A choice of one text from each list, with the place of the text in its list. -/
def Picked (options : List (List String)) (picks : List (Nat × String)) : Prop :=
  List.Forall₂ (fun texts pick => texts[pick.1]? = some pick.2) options picks

/-- The place of a choice in an enumeration whose first pick varies fastest. -/
def rank : List (List String) → List (Nat × String) → Nat
  | texts :: options, pick :: picks => pick.1 + texts.length * rank options picks
  | _, _ => 0

variable {options : List (List String)} {picks : List (Nat × String)}

theorem choices_concat (rest : List (List String)) (texts chosen : List String) :
    choices (rest ++ [texts]) chosen =
      (choices rest chosen).flatMap fun front => texts.map (· :: front) := by
  induction rest generalizing chosen with
  | nil => simp [choices, ← List.map_eq_flatMap]
  | cons first rest ih => simp [choices, ih, List.flatMap_assoc]

/-- The last list of several varies slowest if they are given in reverse order. -/
theorem choices_reverse (options : List (List String)) :
    choices options.reverse [] = options.sections := by
  induction options with
  | nil => rfl
  | cons texts options ih => rw [List.reverse_cons, choices_concat, ih, List.sections]

theorem length_sections (options : List (List String)) :
    options.sections.length = (options.map List.length).prod := by
  induction options with
  | nil => rfl
  | cons texts options ih =>
    simp [List.sections, List.length_flatMap, ih, Nat.mul_comm]

/-- The items of lists of one length, written one after another, are found by two numbers. -/
theorem getElem?_flatMap {Item Other : Type} {items : List Item} {expand : Item → List Other}
    {item : Item} {length outer inner : Nat} (lengthEq : ∀ item, (expand item).length = length)
    (itemEq : items[outer]? = some item) (inside : inner < length) :
    (items.flatMap expand)[inner + length * outer]? = (expand item)[inner]? := by
  induction items generalizing outer with
  | nil => simp at itemEq
  | cons first rest ih =>
    rw [List.flatMap_cons]
    cases outer with
    | zero =>
      have same : first = item := by simpa using itemEq
      rw [Nat.mul_zero, Nat.add_zero, List.getElem?_append_left (by rw [lengthEq]; exact inside),
        same]
    | succ outer =>
      have later : rest[outer]? = some item := by simpa using itemEq
      have placeEq : inner + length * (outer + 1) = (expand first).length +
          (inner + length * outer) := by
        rw [lengthEq, Nat.mul_succ]
        omega
      rw [placeEq, List.getElem?_append_right (Nat.le_add_right _ _), Nat.add_sub_cancel_left]
      exact ih later

theorem getElem?_sections (picked : Picked options picks) :
    options.sections[rank options picks]? = some (picks.map Prod.snd) := by
  induction picked with
  | nil => rfl
  | @cons texts pick options picks pickEq _ ih =>
    have inside : pick.1 < texts.length := (List.getElem?_eq_some_iff.mp pickEq).1
    rw [rank, List.sections, getElem?_flatMap (fun front => by simp) ih inside, List.getElem?_map,
      pickEq]
    rfl

/-- The choice of the first texts comes first. -/
theorem rank_firsts (options : List (List String)) (firsts : ∀ pick ∈ picks, pick.1 = 0) :
    rank options picks = 0 := by
  induction picks generalizing options with
  | nil => simp [rank]
  | cons pick picks ih =>
    rw [List.forall_mem_cons] at firsts
    cases options with
    | nil => rfl
    | cons texts options => rw [rank, firsts.1, ih options firsts.2, Nat.mul_zero]

/-- Every place belongs to one choice. -/
theorem existsUnique_picked (options : List (List String)) {place : Nat}
    (inside : place < (options.map List.length).prod) :
    ∃! picks, Picked options picks ∧ rank options picks = place := by
  induction options generalizing place with
  | nil =>
    have first : place = 0 := by simpa using inside
    refine ⟨[], ⟨.nil, first.symm⟩, ?_⟩
    rintro picks ⟨picked, _⟩
    exact List.forall₂_nil_left_iff.mp picked
  | cons texts options ih =>
    rw [List.map_cons, List.prod_cons] at inside
    have filled : 0 < texts.length := by
      by_contra empty
      simp [Nat.eq_zero_of_not_pos empty] at inside
    have here := Nat.mod_lt place filled
    rcases ih (Nat.div_lt_of_lt_mul inside) with ⟨picks, ⟨picked, rankEq⟩, only⟩
    refine ⟨(place % texts.length, texts[place % texts.length]) :: picks, ⟨?_, ?_⟩, ?_⟩
    · exact .cons (List.getElem?_eq_getElem here) picked
    · rw [rank, rankEq]
      exact Nat.mod_add_div place texts.length
    · rintro other ⟨otherPicked, otherRank⟩
      cases otherPicked with
      | @cons _ pick _ others pickEq othersPicked =>
        have below : pick.1 < texts.length := (List.getElem?_eq_some_iff.mp pickEq).1
        rw [rank] at otherRank
        have indexEq : pick.1 = place % texts.length := by
          rw [← otherRank, Nat.add_mul_mod_self_left, Nat.mod_eq_of_lt below]
        have othersRank : rank options others = place / texts.length := by
          rw [← otherRank, Nat.add_mul_div_left _ _ filled, Nat.div_eq_of_lt below, Nat.zero_add]
        rw [only others ⟨othersPicked, othersRank⟩]
        have textEq : pick.2 = texts[place % texts.length] := by
          rw [indexEq, List.getElem?_eq_getElem here] at pickEq
          exact (Option.some.inj pickEq).symm
        rw [← textEq, ← indexEq]

/-- A text in front of an ending, with the main delimiter between them. An empty text is taken for no
ending. -/
def putBefore (tree : CommandTree Action) (text ending : String) : String :=
  if ending = "" then text else text ++ tree.settings.mainDelimiter ++ ending

/-- The usages of a node that have an ending, found on the way up as long as the steps allow. -/
def usagesWithin (tree : CommandTree Action) : Nat → CommandNode Action → String → List String
  | 0, _, _ => []
  | steps + 1, node, ending =>
    match node.parent?.bind tree.node? with
    | some parent =>
      node.codes.flatMap fun code => tree.usagesWithin steps parent (tree.putBefore code ending)
    | none => [tree.putBefore tree.settings.lead ending]

variable {tree : CommandTree Action} {id : NodeId} {node : CommandNode Action}
  {way : List (CommandNode Action)}

theorem putBefore_joinMain {text : String} {chosen : List String}
    (filled : ∀ code ∈ chosen, code ≠ "") :
    tree.putBefore text (tree.joinMain chosen) = tree.joinMain (text :: chosen) := by
  cases chosen with
  | nil => simp [putBefore, joinMain]
  | cons code rest =>
    have codeNe := filled code List.mem_cons_self
    have endingNe : tree.joinMain (code :: rest) ≠ "" := by
      cases rest <;> simp [joinMain, codeNe]
    rw [putBefore, if_neg endingNe]
    simp [joinMain]

theorem WellFormed.code_ne_empty (wellFormed : tree.WellFormed)
    (nodeEq : tree.node? id = some node) {code : String} (codeMem : code ∈ node.codes) :
    code ≠ "" := by
  rintro rfl
  have blank := wellFormed.code_not_blank nodeEq codeMem
  simp [isBlankString] at blank

/-- The walk up gathers the choices of codes, each with the ending that it started from. -/
theorem WellFormed.usagesWithin_joinMain (wellFormed : tree.WellFormed) {steps : Nat}
    {chosen : List String} (nodeEq : tree.node? id = some node) (enough : id.index < steps)
    (filled : ∀ code ∈ chosen, code ≠ "") :
    tree.usagesWithin steps node (tree.joinMain chosen) =
      (choices (codesAlong (tree.lineageWithin steps node)) chosen).map fun codes =>
        tree.joinMain (tree.settings.lead :: codes) := by
  induction steps generalizing id node chosen with
  | zero => omega
  | succ steps ih =>
    rw [usagesWithin, lineageWithin]
    by_cases isRoot : id = .root
    · have root := (wellFormed.isRoot_iff nodeEq).mpr isRoot
      rw [parent?_of_isRoot root]
      simp [codesAlong, root, choices, putBefore_joinMain filled]
    · rcases wellFormed.parent?_eq nodeEq isRoot with
        ⟨parent, parentNode, parentIdEq, earlier, parentEq⟩
      have below : node.isRoot = false := by
        have := mt (wellFormed.isRoot_iff nodeEq).mp isRoot
        simpa using this
      rw [parentIdEq, Option.bind_some, parentEq]
      simp only [codesAlong, List.filter_cons, below, Bool.not_false, if_true, List.map_cons,
        choices, List.map_flatMap]
      apply List.flatMap_congr
      intro code codeMem
      have codeNe := wellFormed.code_ne_empty nodeEq codeMem
      rw [putBefore_joinMain filled]
      exact ih parentEq (by omega) (List.forall_mem_cons.mpr ⟨codeNe, filled⟩)

theorem WellFormed.usagesWithin_eq (wellFormed : tree.WellFormed)
    (nodeEq : tree.node? id = some node) :
    tree.usagesWithin tree.size node "" = tree.nodeUsages node := by
  have nothing : tree.joinMain [] = "" := String.intercalate_nil
  rw [← nothing]
  exact wellFormed.usagesWithin_joinMain nodeEq (lt_size_of_node? nodeEq) (by simp)

theorem Ancestry.unique {other : List (CommandNode Action)} (ancestry : tree.Ancestry node way)
    (otherAncestry : tree.Ancestry node other) : way = other := by
  induction ancestry generalizing other with
  | root isRoot =>
    cases otherAncestry with
    | root _ => rfl
    | through parentIdEq _ _ => simp [parent?_of_isRoot isRoot] at parentIdEq
  | through parentIdEq parentEq onward ih =>
    cases otherAncestry with
    | root isRoot => simp [parent?_of_isRoot isRoot] at parentIdEq
    | through otherIdEq otherEq otherOnward =>
      rw [parentIdEq, Option.some.injEq] at otherIdEq
      subst otherIdEq
      rw [parentEq, Option.some.injEq] at otherEq
      subst otherEq
      rw [ih otherOnward]

/-- The way down to a node begins with the root, and the nodes after it have codes. -/
theorem WellFormed.exists_path (wellFormed : tree.WellFormed) (nodeEq : tree.node? id = some node)
    (ancestry : tree.Ancestry node way) :
    ∃ root path, way.reverse = root :: path ∧ root.isRoot = true ∧
      codesAlong way = (path.map CommandNode.codes).reverse ∧ ∀ step ∈ path, step.codes ≠ [] := by
  induction ancestry generalizing id with
  | @root node isRoot => exact ⟨node, [], rfl, isRoot, by simp [codesAlong, isRoot], by simp⟩
  | @through node parentNode parent way parentIdEq parentEq onward ih =>
    rcases ih parentEq with ⟨root, path, reverseEq, isRoot, codesEq, filled⟩
    have below : id ≠ .root := by
      intro top
      simp [(wellFormed.parent?_eq_none_iff nodeEq).mpr top] at parentIdEq
    have notRoot : node.isRoot = false := by
      simpa using mt (wellFormed.isRoot_iff nodeEq).mp below
    rcases wellFormed.place_eq nodeEq below with ⟨_, codes, placeEq, _, codesNeNil, _⟩
    refine ⟨root, path ++ [node], by simp [reverseEq], isRoot, ?_, ?_⟩
    · rw [codesAlong, List.filter_cons_of_pos (by simp [notRoot]), List.map_cons]
      simpa [codesAlong] using codesEq
    · intro step stepMem
      rcases List.mem_append.mp stepMem with earlier | last
      · exact filled step earlier
      · rw [List.mem_singleton.mp last]
        simpa [CommandNode.codes, placeEq] using codesNeNil

theorem primaryCode?_of_isRoot (isRoot : node.isRoot = true) : node.primaryCode? = none := by
  have placeEq : node.place = .root := by simpa [CommandNode.isRoot] using isRoot
  simp [CommandNode.primaryCode?, CommandNode.codes, placeEq]

/-- The choice of the first code of every node. -/
def firstPicks (lead : String) (path : List (CommandNode Action)) : List (Nat × String) :=
  path.map fun step => (0, step.primaryCode?.getD lead)

theorem picked_firsts (lead : String) {path : List (CommandNode Action)}
    (filled : ∀ step ∈ path, step.codes ≠ []) :
    Picked (path.map CommandNode.codes) (firstPicks lead path) := by
  rw [Picked, firstPicks, List.forall₂_map_left_iff, List.forall₂_map_right_iff, List.forall₂_same]
  intro step stepMem
  rcases List.exists_cons_of_ne_nil (filled step stepMem) with ⟨code, rest, codesEq⟩
  simp [CommandNode.primaryCode?, codesEq]

/-- The usages of a node choose from the codes of the nodes on the way down, and the first of them
takes the first code of each. -/
theorem WellFormed.usages_of_path (wellFormed : tree.WellFormed)
    (nodeEq : tree.node? id = some node) (ancestry : tree.Ancestry node way) :
    ∃ root path, way.reverse = root :: path ∧ (∀ step ∈ path, step.codes ≠ []) ∧
      tree.nodeUsages node = (path.map CommandNode.codes).sections.map (fun chosen =>
        tree.joinMain (tree.settings.lead :: chosen)) ∧
      tree.nodeUsage node = tree.joinMain (tree.settings.lead ::
        (firstPicks tree.settings.lead path).map Prod.snd) := by
  have lineageEq : tree.lineage node = way :=
    (wellFormed.ancestry_lineage nodeEq).1.unique ancestry
  rcases wellFormed.exists_path nodeEq ancestry with
    ⟨root, path, reverseEq, isRoot, codesEq, filled⟩
  refine ⟨root, path, reverseEq, filled, ?_, ?_⟩
  · rw [nodeUsages_eq_map_combinations, combinations, lineageEq, codesEq, choices_reverse]
  · rw [nodeUsage, lineageEq, reverseEq, List.map_cons, primaryCode?_of_isRoot isRoot]
    simp [firstPicks, Function.comp_def]

theorem WellFormed.usages_of_mem_handlers (wellFormed : tree.WellFormed)
    (nodeEq : tree.node? id = some node) {handler : Handler Action}
    (handlerMem : handler ∈ node.handlers) :
    tree.handlerUsage handler = tree.withParameters (tree.nodeUsage node) handler ∧
      tree.handlerUsages handler =
        (tree.nodeUsages node).map fun usage => tree.withParameters usage handler := by
  have hostEq := wellFormed.handler_node nodeEq handlerMem
  simp [handlerUsage, handlerUsages, hostEq, nodeEq]

/-- The usages of a node and of its handlers enumerate the choices of one code for each node on the
way down, the code next to the root varying fastest. The first usage is the one through the first
codes. A walk up that carries the ending of a usage along gives the same list. -/
theorem usages_enumerate_choices (reachable : tree.Reachable) (nodeEq : tree.node? id = some node)
    (ancestry : tree.Ancestry node way) :
    let options := way.reverse.tail.map CommandNode.codes
    (tree.nodeUsages node).length = (options.map List.length).prod ∧
    (∀ picks, Picked options picks →
      (tree.nodeUsages node)[rank options picks]? =
        some (tree.settings.mainDelimiter.intercalate
          (tree.settings.lead :: picks.map Prod.snd))) ∧
    (∀ place < (tree.nodeUsages node).length,
      ∃! picks, Picked options picks ∧ rank options picks = place) ∧
    (tree.nodeUsages node).head? = some (tree.nodeUsage node) ∧
    tree.usagesWithin tree.size node "" = tree.nodeUsages node ∧
    ∀ handler ∈ node.handlers,
      (tree.handlerUsages handler).length = (tree.nodeUsages node).length ∧
      (tree.handlerUsages handler).head? = some (tree.handlerUsage handler) ∧
      ∀ (place : Nat) (usage : String), (tree.nodeUsages node)[place]? = some usage →
        (tree.handlerUsages handler)[place]? = some (trimString (usage ++
          String.join (handler.parameters.map fun parameter =>
            tree.settings.mainDelimiter ++ "(" ++ parameter.name ++ ")"))) := by
  have wellFormed := reachable.wellFormed
  rcases wellFormed.usages_of_path nodeEq ancestry with
    ⟨root, path, reverseEq, filled, usagesEq, usageEq⟩
  rw [reverseEq, List.tail_cons]
  have lengthEq : (tree.nodeUsages node).length =
      ((path.map CommandNode.codes).map List.length).prod := by
    rw [usagesEq, List.length_map, length_sections]
  have usageAt {picks : List (Nat × String)} (picked : Picked (path.map CommandNode.codes) picks) :
      (tree.nodeUsages node)[rank (path.map CommandNode.codes) picks]? =
        some (tree.joinMain (tree.settings.lead :: picks.map Prod.snd)) := by
    rw [usagesEq, List.getElem?_map, getElem?_sections picked]
    rfl
  have headEq : (tree.nodeUsages node).head? = some (tree.nodeUsage node) := by
    rw [List.head?_eq_getElem?, usageEq, ← usageAt (picked_firsts tree.settings.lead filled),
      rank_firsts]
    simp [firstPicks]
  refine ⟨lengthEq, fun picks picked => usageAt picked, ?_, headEq,
    wellFormed.usagesWithin_eq nodeEq, ?_⟩
  · intro place inside
    rw [lengthEq] at inside
    exact existsUnique_picked _ inside
  · intro handler handlerMem
    rcases wellFormed.usages_of_mem_handlers nodeEq handlerMem with ⟨usageEq, allEq⟩
    refine ⟨by simp [allEq], by simp [allEq, usageEq, headEq], ?_⟩
    intro place usage placeEq
    rw [allEq, List.getElem?_map, placeEq]
    rfl

/-- The node with two aliases above it has two usages, the second one through the second alias. -/
theorem usages_enumerate_choices_calculator :
    calculator.Reachable ∧ ∃ node, calculator.node? ⟨2⟩ = some node ∧
      calculator.Ancestry node (calculator.lineage node) ∧
      (calculator.nodeUsages node).length = 2 ∧
      (calculator.nodeUsages node)[1]? = some "!/c/sub" := by
  obtain ⟨node, nodeEq⟩ : ∃ node, calculator.node? ⟨2⟩ = some node := ⟨_, rfl⟩
  have ancestry := (calculator_reachable.wellFormed.ancestry_lineage nodeEq).1
  have optionsEq : (calculator.lineage node).reverse.tail.map CommandNode.codes =
      [["Calc", "c"], ["sub"]] := by
    cases nodeEq
    decide
  have enumerated := usages_enumerate_choices calculator_reachable nodeEq ancestry
  rw [optionsEq] at enumerated
  rcases enumerated with ⟨lengthEq, usageAt, _⟩
  refine ⟨calculator_reachable, node, nodeEq, ancestry, lengthEq, ?_⟩
  have second := usageAt [(1, "c"), (0, "sub")] (.cons rfl (.cons rfl .nil))
  exact second

end CommandTree

end Switchboard
