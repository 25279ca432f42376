import Switchboard.Proofs.Tree.Ways

/-!
# Selection of a handler

A text is handed down from node to node until one of them does not hand it over, and this node
answers or nobody does. On this way nothing asks for a scope. The scope of the handler is looked at
when the handler stands, and it only decides between the two answers of this one handler: neither
the kind of channel nor the way of checking scopes can make another handler answer.
-/

namespace Switchboard

variable {Action : Type}

namespace CommandTree

variable {tree : CommandTree Action} {delimiter text left : List Char} {id last : NodeId}
  {node : CommandNode Action} {handler : Handler Action}

/-- A text below a node comes to a node, what is left of it being resolved there. -/
inductive HandedDown (tree : CommandTree Action) (delimiter : List Char) :
    NodeId → List Char → NodeId → List Char → Prop where
  | stays {id : NodeId} {text : List Char} : HandedDown tree delimiter id text id text
  | passes {id child last : NodeId} {text rest left : List Char}
      (handed : tree.handOver? delimiter id text = some (child, rest))
      (onward : HandedDown tree delimiter child rest last left) :
      HandedDown tree delimiter id text last left

/-- What a node hands over is shorter than what it was given. -/
theorem length_lt_of_handOver? {child : NodeId} {rest : List Char}
    (handed : tree.handOver? delimiter id text = some (child, rest)) :
    rest.length < text.length := by
  rcases Option.bind_eq_some_iff.mp handed with ⟨node, _, onward⟩
  split at onward
  · cases onward
  · rename_i unanswered
    rcases Option.map_eq_some_iff.mp onward with ⟨named, _, same⟩
    rw [Prod.mk.injEq] at same
    rw [← same.2]
    exact length_splitFirst_lt delimiter fun empty => unanswered (Or.inr empty)

/-- Every text comes to a node that does not hand it over. -/
theorem exists_handedDown (tree : CommandTree Action) (delimiter : List Char) (id : NodeId)
    (text : List Char) :
    ∃ last left, tree.HandedDown delimiter id text last left ∧
      tree.handOver? delimiter last left = none := by
  -- What is handed over gets shorter, so the induction is on the length of the text.
  induction lengthEq : text.length using Nat.strongRecOn generalizing id text with
  | _ length ih =>
    cases handed : tree.handOver? delimiter id text with
    | none => exact ⟨id, text, .stays, handed⟩
    | some step =>
      rcases step with ⟨child, rest⟩
      have shorter := length_lt_of_handOver? handed
      rcases ih rest.length (by omega) child rest rfl with ⟨last, left, onward, ends⟩
      exact ⟨last, left, .passes handed onward, ends⟩

/-- A text is answered where it comes to, whatever is asked of scopes. -/
theorem HandedDown.resolve_eq (comes : tree.HandedDown delimiter id text last left)
    (check : ScopeCheck) (channelKind : ChannelKind) :
    tree.resolve check channelKind delimiter id text =
      tree.resolve check channelKind delimiter last left := by
  induction comes with
  | stays => rfl
  | passes handed onward ih =>
    rw [resolve_eq_handOver?, handed]
    exact ih

/-- A node that has a handler for the tokens of a text leaves the answer to this handler. -/
theorem resolve_of_handler? (nodeEq : tree.node? id = some node)
    (handlerEq : node.handler? (splitTokens text delimiter node.maxArity?).length = some handler)
    (check : ScopeCheck) (channelKind : ChannelKind) :
    tree.resolve check channelKind delimiter id text =
      if check handler.scope channelKind then
        .matched id ((splitTokens text delimiter node.maxArity?).map String.ofList)
      else
        .outOfScope id handler.arity ⟨handler.scope.rejection channelKind⟩ := by
  rw [resolve, nodeEq]
  simp only [handlerEq]

/-- Where a text is not handed over, either a handler answers to it or there is no answer at
all. -/
theorem resolve_of_handOver?_none (kept : tree.handOver? delimiter id text = none) :
    (∀ check channelKind, tree.resolve check channelKind delimiter id text = .noMatch) ∨
    ∃ node handler, tree.node? id = some node ∧
      node.handler? (splitTokens text delimiter node.maxArity?).length = some handler := by
  have answered (check : ScopeCheck) (channelKind : ChannelKind) :
      tree.resolve check channelKind delimiter id text =
        tree.answerAt check channelKind delimiter id text := by
    rw [resolve_eq_handOver?, kept]
  cases nodeEq : tree.node? id with
  | none =>
    left
    intro check channelKind
    rw [answered, answerAt, nodeEq]
  | some node =>
    cases handlerEq : node.handler? (splitTokens text delimiter node.maxArity?).length with
    | none =>
      left
      intro check channelKind
      rw [answered, answerAt, nodeEq]
      simp only [handlerEq]
    | some handler => exact Or.inr ⟨node, handler, rfl, handlerEq⟩

/-- A text selects a handler of a node that it comes to, for as many tokens as the handler takes, or
it selects nothing. Whether the handler may run is asked afterwards. -/
theorem WellFormed.resolve_cases (wellFormed : tree.WellFormed) (delimiter : List Char)
    (id : NodeId) (text : List Char) :
    (∀ check channelKind, tree.resolve check channelKind delimiter id text = .noMatch) ∨
    ∃ last left handler tokens, tree.HandedDown delimiter id text last left ∧
      tree.handler? last tokens.length = some handler ∧
      ∀ check channelKind, tree.resolve check channelKind delimiter id text =
        if check handler.scope channelKind then
          .matched last tokens
        else
          .outOfScope last tokens.length ⟨handler.scope.rejection channelKind⟩ := by
  rcases tree.exists_handedDown delimiter id text with ⟨last, left, comes, kept⟩
  rcases resolve_of_handOver?_none kept with nobody | ⟨node, handler, nodeEq, handlerEq⟩
  · left
    intro check channelKind
    rw [comes.resolve_eq, nobody]
  · right
    refine ⟨last, left, handler,
      (splitTokens left delimiter node.maxArity?).map String.ofList, comes, ?_, ?_⟩
    · rw [List.length_map, CommandTree.handler?, nodeEq]
      exact handlerEq
    · intro check channelKind
      have arityEq : handler.arity = (splitTokens left delimiter node.maxArity?).length :=
        (wellFormed.handler?_fits nodeEq handlerEq).2.1
      rw [comes.resolve_eq, resolve_of_handler? nodeEq handlerEq, arityEq, List.length_map]

/-- A text comes to the node that answers it, where a handler of the arity in the answer stands. -/
theorem WellFormed.handedDown_of_resolve (wellFormed : tree.WellFormed) {check : ScopeCheck}
    {channelKind : ChannelKind} {arity : Nat}
    (answered : (∃ tokens, tokens.length = arity ∧
        tree.resolve check channelKind delimiter id text = .matched last tokens) ∨
      ∃ response, tree.resolve check channelKind delimiter id text =
        .outOfScope last arity response) :
    (∃ left, tree.HandedDown delimiter id text last left) ∧
      (tree.handler? last arity).isSome := by
  rcases wellFormed.resolve_cases delimiter id text with
    nobody | ⟨selected, left, handler, tokens, comes, handlerEq, answers⟩
  · simp [nobody] at answered
  · have same : selected = last ∧ tokens.length = arity := by
      simp only [answers] at answered
      cases permitted : check handler.scope channelKind <;> simp_all
    rcases same with ⟨rfl, rfl⟩
    exact ⟨⟨left, comes⟩, by simp [handlerEq]⟩

/-- Two runs on one text, with any two kinds of channel and any two ways of checking scopes, select
the same handler for the same tokens, and each of them is refused exactly if the check refuses the
scope of this handler. A handler that is refused is not passed over: a text that comes to it gets no
other answer, be it from a handler of another arity or from a node farther down. -/
theorem selection_ignores_scope (reachable : tree.Reachable) (delimiter : List Char) (id : NodeId)
    (text : List Char) (check other : ScopeCheck) (channelKind otherKind : ChannelKind) :
    (tree.resolve check channelKind delimiter id text = .noMatch ∧
        tree.resolve other otherKind delimiter id text = .noMatch ∨
      ∃ selected handler tokens, tree.handler? selected tokens.length = some handler ∧
        (tree.resolve check channelKind delimiter id text =
          if check handler.scope channelKind then
            .matched selected tokens
          else
            .outOfScope selected tokens.length ⟨handler.scope.rejection channelKind⟩) ∧
        tree.resolve other otherKind delimiter id text =
          if other handler.scope otherKind then
            .matched selected tokens
          else
            .outOfScope selected tokens.length ⟨handler.scope.rejection otherKind⟩) ∧
    ∀ last left node handler, tree.HandedDown delimiter id text last left →
      tree.node? last = some node →
      node.handler? (splitTokens left delimiter node.maxArity?).length = some handler →
      check handler.scope channelKind = false →
      tree.resolve check channelKind delimiter id text =
        .outOfScope last handler.arity ⟨handler.scope.rejection channelKind⟩ := by
  constructor
  · rcases reachable.wellFormed.resolve_cases delimiter id text with
      nobody | ⟨last, _, handler, tokens, _, handlerEq, answers⟩
    · exact Or.inl ⟨nobody check channelKind, nobody other otherKind⟩
    · exact Or.inr ⟨last, handler, tokens, handlerEq, answers check channelKind,
        answers other otherKind⟩
  · intro last left node handler comes nodeEq handlerEq refused
    rw [comes.resolve_eq, resolve_of_handler? nodeEq handlerEq, refused]
    rfl

/-- The command of a calculator takes a text that a node below it could answer as well. Where its
scope is refused, the node below does not answer either. -/
theorem selection_ignores_scope_calculator :
    calculator.Reachable ∧
    calculator.resolve .allowAll .privateText ['/'] .root "c/sub/x".toList =
      .matched ⟨1⟩ ["sub", "x"] ∧
    ∃ response, calculator.resolve .denyAll .groupPublicText ['/'] .root "c/sub/x".toList =
      .outOfScope ⟨1⟩ 2 response := by
  have answered : calculator.resolve .allowAll .privateText ['/'] .root "c/sub/x".toList =
      .matched ⟨1⟩ ["sub", "x"] := by
    decide +kernel
  refine ⟨calculator_reachable, answered, ?_⟩
  rcases (selection_ignores_scope calculator_reachable ['/'] .root "c/sub/x".toList .allowAll
    .denyAll .privateText .groupPublicText).1 with
    ⟨nobody, _⟩ | ⟨selected, handler, tokens, _, allowed, refused⟩
  · rw [answered] at nobody
    cases nobody
  · rw [answered] at allowed
    cases allowed
    exact ⟨_, refused⟩

end CommandTree

end Switchboard
