import Mathlib.Logic.Relation
import Switchboard.Proofs.Dispatch.Invocation
import Switchboard.Proofs.Token.Agreement
import Switchboard.Proofs.Token.Conservation
import Switchboard.Proofs.Tree.Selection

/-!
# Nodes that nothing passes

A node hands a text over to a child only if it has no handler for the tokens that it reads from the
text. A text that names a child holds one token at least, and a node reads no more tokens than its
highest arity, or one. So a node with a handler for each of these numbers keeps everything, and the
nodes below it are out of reach.
-/

namespace Switchboard

variable {Action : Type}

theorem plain_splitFirst (text delimiter : List Char) :
    Plain (String.ofList (splitFirst text delimiter).1) where
  trimmed := by
    simp [splitFirst, trim_trim]
  unquoted := by
    intro character present
    simp only [splitFirst, String.toList_ofList] at present
    exact unquoted_scanFirst delimiter false text character (mem_of_mem_trim present)

/-- One of the two quote characters is not the beginning of a delimiter. -/
theorem exists_encloses (delimiter : List Char) : ∃ quote, Encloses delimiter quote := by
  by_cases single : delimiter.head? = some '\x27'
  · refine ⟨'\x22', rfl, ?_⟩
    simp [single]
  · exact ⟨'\x27', rfl, single⟩

namespace CommandTree

variable {tree : CommandTree Action} {delimiter text rest : List Char} {id child : NodeId}
  {node : CommandNode Action} {highest : Nat}

/-- A text is handed over to the child that its first piece names, unless there is a handler for the
tokens that the node reads from it. -/
theorem handOver?_eq_some_iff (nodeEq : tree.node? id = some node) :
    tree.handOver? delimiter id text = some (child, rest) ↔
      node.handler? (splitTokens text delimiter node.maxArity?).length = none ∧ text ≠ [] ∧
        node.childId? (String.ofList (splitFirst text delimiter).1) = some child ∧
        (splitFirst text delimiter).2 = rest := by
  cases handlerEq : node.handler? (splitTokens text delimiter node.maxArity?).length with
  | some handler => simp [handOver?, nodeEq, handlerEq]
  | none =>
    by_cases empty : text = []
    · simp [handOver?, nodeEq, empty]
    · simp [handOver?, nodeEq, handlerEq, empty]

/-- The first piece of a text that names a child is a token. -/
theorem WellFormed.first_token (wellFormed : tree.WellFormed) (nodeEq : tree.node? id = some node)
    (childEq : node.childId? (String.ofList (splitFirst text delimiter).1) = some child)
    (bound : Option Nat) : splitTokens text delimiter bound ≠ [] := by
  have named : (splitFirst text delimiter).1 ≠ [] := by
    intro blank
    rw [blank] at childEq
    simp [wellFormed.childId?_empty nodeEq] at childEq
  rcases firstToken_prefix text delimiter bound with ⟨others, tokensEq⟩
  simp [← tokensEq, firstToken, named]

/-- A node that hands over a text has no handler for some number of tokens up to its bound. -/
theorem WellFormed.gap_of_handOver? (wellFormed : tree.WellFormed)
    (nodeEq : tree.node? id = some node) (highestEq : node.maxArity? = some highest)
    (handed : tree.handOver? delimiter id text = some (child, rest)) :
    ∃ arity, 1 ≤ arity ∧ arity ≤ max highest 1 ∧ node.handler? arity = none := by
  rcases (handOver?_eq_some_iff nodeEq).mp handed with ⟨unanswered, _, childEq, _⟩
  refine ⟨(splitTokens text delimiter node.maxArity?).length, ?_, ?_, unanswered⟩
  · apply List.length_pos_iff.mpr
    exact wellFormed.first_token nodeEq childEq _
  · rw [highestEq]
    exact length_splitTokens_le text delimiter highest

theorem claim_eq_of_le (highestEq : node.maxArity? = some highest) {arity : Nat}
    (within : arity ≤ max highest 1) : node.claim arity = arity := by
  rw [CommandNode.claim, highestEq, Option.getD_some]
  omega

/-- A node that hands over a text does not intercept every number of tokens. -/
theorem WellFormed.exists_not_intercepts (wellFormed : tree.WellFormed)
    (nodeEq : tree.node? id = some node)
    (handed : tree.handOver? delimiter id text = some (child, rest)) :
    ∃ count, 1 ≤ count ∧ ¬node.Intercepts count := by
  cases highestEq : node.maxArity? with
  | none =>
    refine ⟨1, Nat.le_refl 1, ?_⟩
    intro intercepts
    have someHandler := CommandNode.maxArity?_isSome_of_handler? intercepts
    simp [highestEq] at someHandler
  | some highest =>
    rcases wellFormed.gap_of_handOver? nodeEq highestEq handed with ⟨arity, least, most, gap⟩
    have claimed := claim_eq_of_le highestEq most
    exact ⟨arity, least, by simp [CommandNode.Intercepts, claimed, gap]⟩

/-- Some text whose first piece is a given name of a child is handed over to this child, unless the
node intercepts every number of tokens. -/
theorem WellFormed.exists_naming (wellFormed : tree.WellFormed)
    (nodeEq : tree.node? id = some node) (filled : delimiter ≠ []) {code : String}
    (plain : Plain code) (childEq : node.childId? code = some child) {count : Nat}
    (positive : 1 ≤ count) (passes : ¬node.Intercepts count) :
    ∃ text rest, tree.handOver? delimiter id text = some (child, rest) ∧
      String.ofList (splitFirst text delimiter).1 = code := by
  rcases exists_encloses delimiter with ⟨quote, encloses⟩
  let texts := code :: List.replicate (count - 1) "x"
  let text := joinEnclosed delimiter (List.replicate count quote) (texts.map String.toList)
  have codeFilled : code ≠ "" := by
    rintro rfl
    simp [wellFormed.childId?_empty nodeEq] at childEq
  have textsPlain : ∀ text ∈ texts, text ≠ "" ∧ Plain text := by
    intro text textMem
    simp only [texts, List.mem_cons, List.mem_replicate] at textMem
    rcases textMem with rfl | ⟨_, rfl⟩
    · exact ⟨codeFilled, plain⟩
    · decide
  have lengthEq : texts.length = count := by
    simp only [texts, List.length_cons, List.length_replicate]
    omega
  have segmentsEq : segments delimiter text = texts.map String.toList := by
    apply segments_joinEnclosed filled
    · intro other otherMem
      simpa [List.eq_of_mem_replicate otherMem] using encloses
    · simp [lengthEq]
    · intro piece pieceMem
      simp only [List.mem_map] at pieceMem
      rcases pieceMem with ⟨part, partMem, rfl⟩
      have partPlain := textsPlain part partMem
      exact ⟨by simpa using partPlain.1, partPlain.2.unquoted⟩
  have unanswered : node.handler? (splitTokens text delimiter node.maxArity?).length = none := by
    rw [splitTokens_eq_tokensOfPieces, segmentsEq, handler?_tokens textsPlain, lengthEq]
    simpa [CommandNode.Intercepts] using passes
  have firstEq : (scanFirst delimiter false text).1 = code.toList := by
    rcases segments_scanFirst delimiter text with cut | ⟨nothing, _⟩
    · simp only [segmentsEq, texts, List.map_cons, List.cons.injEq] at cut
      exact cut.1.symm
    · simp [segmentsEq, texts] at nothing
  have named : String.ofList (splitFirst text delimiter).1 = code := by
    simp [splitFirst, firstEq, plain.trimmed]
  have textFilled : text ≠ [] := by
    intro empty
    simp [empty, texts] at segmentsEq
  refine ⟨text, (splitFirst text delimiter).2, ?_, named⟩
  rw [handOver?_eq_some_iff nodeEq, named]
  exact ⟨unanswered, textFilled, childEq, rfl⟩

/-- Where a number of tokens up to the bound has no handler, a text of so many tokens that begins
with a name of a child is handed over to it. -/
theorem WellFormed.exists_handOver? (wellFormed : tree.WellFormed)
    (nodeEq : tree.node? id = some node) (highestEq : node.maxArity? = some highest)
    (filled : delimiter ≠ []) {code : String} (plain : Plain code)
    (childEq : node.childId? code = some child) {arity : Nat} (positive : 1 ≤ arity)
    (within : arity ≤ max highest 1) (gap : node.handler? arity = none) :
    ∃ text rest, tree.handOver? delimiter id text = some (child, rest) := by
  have passes : ¬node.Intercepts arity := by
    simp [CommandNode.Intercepts, claim_eq_of_le highestEq within, gap]
  rcases wellFormed.exists_naming nodeEq filled plain childEq positive passes with
    ⟨text, rest, handed, _⟩
  exact ⟨text, rest, handed⟩

/-- A node is the parent of another one. -/
def IsParent (tree : CommandTree Action) (upper lower : NodeId) : Prop :=
  (tree.node? lower).bind CommandNode.parent? = some upper

/-- A node lies below another one, its parent or its parent's parent or so on. -/
def IsBelow (tree : CommandTree Action) : NodeId → NodeId → Prop :=
  Relation.TransGen tree.IsParent

theorem WellFormed.isParent_of_handOver? (wellFormed : tree.WellFormed)
    (handed : tree.handOver? delimiter id text = some (child, rest)) : tree.IsParent id child := by
  cases nodeEq : tree.node? id with
  | none => simp [handOver?, nodeEq] at handed
  | some node =>
    rcases (handOver?_eq_some_iff nodeEq).mp handed with ⟨_, _, childEq, _⟩
    rcases wellFormed.childId?_leads nodeEq childEq with
      ⟨_, childNode, childNodeEq, parentEq, _⟩
    simp [IsParent, childNodeEq, parentEq]

theorem WellFormed.not_isBelow_root (wellFormed : tree.WellFormed) : ¬tree.IsBelow id .root := by
  intro below
  rcases wellFormed.root_eq with ⟨root, rootEq, _⟩
  have orphan := (wellFormed.parent?_eq_none_iff rootEq).mpr rfl
  rcases Relation.TransGen.tail'_iff.mp below with ⟨parent, _, parentEq⟩
  simp [IsParent, rootEq, orphan] at parentEq

/-- A text can only come to a place below a node from below or by being handed over at that node. -/
theorem WellFormed.isBelow_of_handedDown (wellFormed : tree.WellFormed) {start last : NodeId}
    {left : List Char} (keeps : ∀ text, tree.handOver? delimiter id text = none)
    (comes : tree.HandedDown delimiter start text last left) (below : tree.IsBelow id last) :
    tree.IsBelow id start := by
  induction comes with
  | stays => exact below
  | @passes start child last text rest left handed onward ih =>
    -- The child lies below, so its parent does too, unless it is the node that keeps everything.
    rcases Relation.TransGen.tail'_iff.mp (ih below) with ⟨parent, upward, parentEq⟩
    have same : parent = start := by
      have startEq := wellFormed.isParent_of_handOver? handed
      rw [IsParent] at parentEq startEq
      rw [parentEq] at startEq
      exact Option.some.inj startEq
    subst same
    rcases Relation.reflTransGen_iff_eq_or_transGen.mp upward with rfl | further
    · simp [keeps] at handed
    · exact further

/-- A node with a handler for every number of tokens up to its highest arity keeps every text. -/
theorem WellFormed.keeps_of_full (wellFormed : tree.WellFormed)
    (nodeEq : tree.node? id = some node) (highestEq : node.maxArity? = some highest)
    (positive : 1 ≤ highest)
    (full : ∀ arity, 1 ≤ arity → arity ≤ highest → (node.handler? arity).isSome)
    (delimiter text : List Char) : tree.handOver? delimiter id text = none := by
  by_contra handed
  rcases Option.ne_none_iff_exists'.mp handed with ⟨⟨child, rest⟩, handed⟩
  rcases wellFormed.gap_of_handOver? nodeEq highestEq handed with ⟨arity, least, most, gap⟩
  have registered := full arity least (by omega)
  simp [gap] at registered

/-- A node with handlers hands over some text exactly if some plain text names a child and a number
of tokens up to its highest arity, or one, has no handler. If there is a handler for all of these
numbers, no message is answered below the node. -/
theorem subtree_reachable_iff (reachable : tree.Reachable) (nodeEq : tree.node? id = some node)
    (highestEq : node.maxArity? = some highest) (filled : delimiter ≠ []) :
    ((∃ text child rest, tree.handOver? delimiter id text = some (child, rest)) ↔
      (∃ code, Plain code ∧ (node.childId? code).isSome) ∧
        ∃ arity, 1 ≤ arity ∧ arity ≤ max highest 1 ∧ node.handler? arity = none) ∧
    (1 ≤ highest → (∀ arity, 1 ≤ arity → arity ≤ highest → (node.handler? arity).isSome) →
      ∀ (dispatcher : Dispatcher Action) (event : TextEvent) (last : NodeId),
        dispatcher.tree = tree → tree.IsBelow id last →
          (∀ tokens, dispatcher.resolve event ≠ .matched last tokens) ∧
            ∀ arity response, dispatcher.resolve event ≠ .outOfScope last arity response) := by
  have wellFormed := reachable.wellFormed
  refine ⟨⟨?_, ?_⟩, ?_⟩
  · rintro ⟨text, child, rest, handed⟩
    refine ⟨?_, wellFormed.gap_of_handOver? nodeEq highestEq handed⟩
    rcases (handOver?_eq_some_iff nodeEq).mp handed with ⟨_, _, childEq, _⟩
    exact ⟨_, plain_splitFirst text delimiter, by simp [childEq]⟩
  · rintro ⟨⟨code, plain, named⟩, arity, positive, within, gap⟩
    rcases Option.isSome_iff_exists.mp named with ⟨child, childEq⟩
    rcases wellFormed.exists_handOver? nodeEq highestEq filled plain childEq positive within gap
      with ⟨text, rest, handed⟩
    exact ⟨text, child, rest, handed⟩
  · rintro positive full dispatcher event last rfl below
    have unanswered (arity : Nat) : ¬((∃ tokens, tokens.length = arity ∧
        dispatcher.resolve event = .matched last tokens) ∨
          ∃ response, dispatcher.resolve event = .outOfScope last arity response) := by
      intro answered
      rw [Dispatcher.resolve] at answered
      cases stripped : dispatcher.tree.stripCommand? event.content.toList with
      | none => simp [stripped] at answered
      | some command =>
        rcases command with ⟨mark, rest⟩
        simp only [stripped] at answered
        rcases wellFormed.handedDown_of_resolve answered with ⟨⟨left, comes⟩, _⟩
        have keeps := wellFormed.keeps_of_full nodeEq highestEq positive full mark.toList
        exact wellFormed.not_isBelow_root (wellFormed.isBelow_of_handedDown keeps comes below)
    constructor
    · intro tokens answered
      exact unanswered tokens.length (Or.inl ⟨tokens, rfl, answered⟩)
    · intro arity response answered
      exact unanswered arity (Or.inr ⟨response, answered⟩)

/-- The calculator with one more handler, so that its command takes one argument or two. -/
def closedCalculator : CommandTree Unit :=
  calculator.build [.register ⟨1⟩ { parameters := [⟨"value", .text⟩] } ()]

theorem closedCalculator_reachable : closedCalculator.Reachable :=
  calculator_reachable.build _

/-- One more handler puts the command below out of reach. -/
theorem subtree_reachable_iff_calculator :
    (∃ text child rest, calculator.handOver? ['/'] ⟨1⟩ text = some (child, rest)) ∧
    closedCalculator.IsBelow ⟨1⟩ ⟨2⟩ ∧
    (¬∃ text child rest, closedCalculator.handOver? ['/'] ⟨1⟩ text = some (child, rest)) ∧
    ∀ (dispatcher : Dispatcher Unit) (event : TextEvent) (tokens : List String),
      dispatcher.tree = closedCalculator → dispatcher.resolve event ≠ .matched ⟨2⟩ tokens := by
  have opened : ∃ node, calculator.node? ⟨1⟩ = some node ∧ node.maxArity? = some 2 ∧
      (node.childId? "sub").isSome ∧ node.handler? 1 = none := ⟨_, rfl, rfl, by decide, rfl⟩
  have closed : ∃ node, closedCalculator.node? ⟨1⟩ = some node ∧ node.maxArity? = some 2 ∧
      ∀ arity, 1 ≤ arity → arity ≤ 2 → (node.handler? arity).isSome := by
    refine ⟨_, rfl, rfl, ?_⟩
    decide
  have below : closedCalculator.IsBelow ⟨1⟩ ⟨2⟩ := .single rfl
  rcases opened with ⟨node, nodeEq, highestEq, named, gap⟩
  rcases closed with ⟨full, fullEq, fullHighest, registered⟩
  have passes := (subtree_reachable_iff calculator_reachable nodeEq highestEq
    (List.cons_ne_nil '/' [])).1.mpr
      ⟨⟨"sub", by decide, named⟩, 1, by decide, by decide, gap⟩
  rcases subtree_reachable_iff closedCalculator_reachable fullEq fullHighest
    (List.cons_ne_nil '/' []) with ⟨passesIff, keeps⟩
  refine ⟨passes, below, ?_, ?_⟩
  · intro handed
    rcases (passesIff.mp handed).2 with ⟨arity, least, most, gap⟩
    simpa [gap] using registered arity least most
  · intro dispatcher event tokens treeEq
    exact (keeps (by decide) registered dispatcher event ⟨2⟩ treeEq below).1 tokens

end CommandTree

end Switchboard
