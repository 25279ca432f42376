import Switchboard.Proofs.Dispatch.Invocation
import Switchboard.Proofs.Tree.Selection

/-!
# Handlers without parameters

A text that comes to a node is answered there by the handler for as many tokens as the node reads
from it. A node reads no more segments than its highest arity, or one. So a handler without
parameters answers exactly if these segments are blank. Nothing is asked of the segments behind
them: arguments there are given but not read.
-/

namespace Switchboard

variable {Action : Type}

/-- A resolution is the answer of the handler of a node for a number of arguments, whether its scope
allows it or not. -/
def Resolution.AnsweredBy (resolution : Resolution) (node : NodeId) (arity : Nat) : Prop :=
  (∃ tokens, tokens.length = arity ∧ resolution = .matched node tokens) ∨
    ∃ response, resolution = .outOfScope node arity response

namespace CommandTree

variable {tree : CommandTree Action} {delimiter text left : List Char} {id last : NodeId}
  {node : CommandNode Action} {check : ScopeCheck} {channelKind : ChannelKind} {arity : Nat}

/-- A text never comes back to an earlier node. -/
theorem HandedDown.le_last (comes : tree.HandedDown delimiter id text last left)
    (wellFormed : tree.WellFormed) : id.index ≤ last.index := by
  induction comes with
  | stays => exact Nat.le_refl _
  | passes handed onward ih =>
    have later := (wellFormed.handOver?_leads handed).1
    omega

/-- Where a node has a handler for as many tokens as it reads, this handler answers and no other one
of the node. -/
theorem WellFormed.answeredBy_of_handler? (wellFormed : tree.WellFormed) {handler : Handler Action}
    (nodeEq : tree.node? id = some node)
    (handlerEq : node.handler? (splitTokens text delimiter node.maxArity?).length = some handler)
    (check : ScopeCheck) (channelKind : ChannelKind) :
    (tree.resolve check channelKind delimiter id text).AnsweredBy id arity ↔
      (splitTokens text delimiter node.maxArity?).length = arity := by
  have arityEq : handler.arity = (splitTokens text delimiter node.maxArity?).length :=
    (wellFormed.handler?_fits nodeEq handlerEq).2.1
  rw [resolve_of_handler? nodeEq handlerEq, arityEq]
  cases check handler.scope channelKind <;> simp [Resolution.AnsweredBy]

/-- A text that comes to a node is answered by a handler of this node exactly if the handler takes
as many arguments as the node reads tokens from what is left of the text. -/
theorem WellFormed.answeredBy_iff (wellFormed : tree.WellFormed)
    (comes : tree.HandedDown delimiter id text last left) (nodeEq : tree.node? last = some node) :
    (tree.resolve check channelKind delimiter id text).AnsweredBy last arity ↔
      (node.handler? arity).isSome ∧
        (splitTokens left delimiter node.maxArity?).length = arity := by
  rw [comes.resolve_eq]
  constructor
  · intro answered
    have registered : (node.handler? arity).isSome := by
      have found := (wellFormed.handedDown_of_resolve answered).2
      rwa [CommandTree.handler?, nodeEq] at found
    refine ⟨registered, ?_⟩
    cases handed : tree.handOver? delimiter last left with
    | some step =>
      -- Whatever answers below the node, it is a later node.
      rcases step with ⟨child, rest⟩
      rw [resolve_eq_handOver?, handed] at answered
      rcases (wellFormed.handedDown_of_resolve answered).1 with ⟨_, back⟩
      have later := (wellFormed.handOver?_leads handed).1
      have earlier := back.le_last wellFormed
      omega
    | none =>
      rcases resolve_of_handOver?_none handed with nobody | ⟨same, handler, sameEq, handlerEq⟩
      · simp [Resolution.AnsweredBy, nobody] at answered
      · obtain rfl : node = same := Option.some.inj (nodeEq.symm.trans sameEq)
        exact (wellFormed.answeredBy_of_handler? nodeEq handlerEq check channelKind).mp answered
  · rintro ⟨registered, rfl⟩
    rcases Option.isSome_iff_exists.mp registered with ⟨handler, handlerEq⟩
    exact (wellFormed.answeredBy_of_handler? nodeEq handlerEq check channelKind).mpr rfl

/-- A handler without parameters answers exactly where a text comes to its node with nothing but
blank segments among those that the node reads. The arguments in what is left of such a text are
those of the segments behind them, so there are none in a text that the node reads as a whole. -/
theorem bare_answer_iff {tree : CommandTree Action} (reachable : tree.Reachable)
    (check : ScopeCheck) (channelKind : ChannelKind) (delimiter text : List Char)
    (id last : NodeId) :
    ((tree.resolve check channelKind delimiter id text).AnsweredBy last 0 ↔
      ∃ left node highest, tree.HandedDown delimiter id text last left ∧
        tree.node? last = some node ∧ node.maxArity? = some highest ∧ (node.handler? 0).isSome ∧
        ∀ segment ∈ (segments delimiter left).take (max highest 1), trim segment = []) ∧
    ∀ left node highest, tree.HandedDown delimiter id text last left →
      tree.node? last = some node → node.maxArity? = some highest →
      (tree.resolve check channelKind delimiter id text).AnsweredBy last 0 →
      splitTokens left delimiter none =
          tokensOfPieces ((segments delimiter left).drop (max highest 1)) ∧
        ((segments delimiter left).length ≤ max highest 1 →
          splitTokens left delimiter none = []) := by
  have wellFormed := reachable.wellFormed
  have readsIff {left : List Char} {node : CommandNode Action} {highest : Nat}
      (highestEq : node.maxArity? = some highest) :
      (splitTokens left delimiter node.maxArity?).length = 0 ↔
        ∀ segment ∈ (segments delimiter left).take (max highest 1), trim segment = [] := by
    rw [List.length_eq_zero_iff, splitTokens_eq_tokensOfPieces, highestEq, boundedBy,
      tokensOfPieces_eq_nil_iff]
  refine ⟨⟨?_, ?_⟩, ?_⟩
  · intro answered
    rcases wellFormed.handedDown_of_resolve answered with ⟨⟨left, comes⟩, found⟩
    rw [CommandTree.handler?] at found
    cases nodeEq : tree.node? last with
    | none => simp [nodeEq] at found
    | some node =>
      rcases (wellFormed.answeredBy_iff comes nodeEq).mp answered with ⟨registered, nothing⟩
      rcases Option.isSome_iff_exists.mp (CommandNode.maxArity?_isSome_of_handler? registered) with
        ⟨highest, highestEq⟩
      exact ⟨left, node, highest, comes, rfl, highestEq, registered,
        (readsIff highestEq).mp nothing⟩
  · rintro ⟨left, node, highest, comes, nodeEq, highestEq, registered, blank⟩
    exact (wellFormed.answeredBy_iff comes nodeEq).mpr
      ⟨registered, (readsIff highestEq).mpr blank⟩
  · intro left node highest comes nodeEq highestEq answered
    have nothing := ((wellFormed.answeredBy_iff comes nodeEq).mp answered).2
    have blank := tokensOfPieces_eq_nil_iff.mpr ((readsIff highestEq).mp nothing)
    have behind : splitTokens left delimiter none =
        tokensOfPieces ((segments delimiter left).drop (max highest 1)) := by
      rw [splitTokens_eq_tokensOfPieces, boundedBy]
      conv_lhs => rw [← List.take_append_drop (max highest 1) (segments delimiter left)]
      rw [tokensOfPieces_append, blank, List.nil_append]
    refine ⟨behind, ?_⟩
    intro whole
    rw [behind, List.drop_of_length_le whole]
    rfl

/-- A blank segment fills the bound of a node of the calculator, and its handler without parameters
answers a text with an argument behind that segment. -/
theorem bare_answer_iff_calculator :
    calculator.Reachable ∧
    calculator.HandedDown ['/'] .root "c/sub/ /'x'".toList ⟨2⟩ " /'x'".toList ∧
    (calculator.resolve .allowAll .privateText ['/'] .root "c/sub/ /'x'".toList).AnsweredBy ⟨2⟩ 0 ∧
    splitTokens " /'x'".toList ['/'] none = tokensOfPieces [['x']] := by
  have first : calculator.handOver? ['/'] .root "c/sub/ /'x'".toList =
      some (⟨1⟩, "sub/ /'x'".toList) := by
    decide +kernel
  have second : calculator.handOver? ['/'] ⟨1⟩ "sub/ /'x'".toList =
      some (⟨2⟩, " /'x'".toList) := by
    decide +kernel
  have comes := HandedDown.passes first (.passes second .stays)
  have cut : segments ['/'] " /'x'".toList = [[' '], ['x']] := by decide +kernel
  rcases bare_answer_iff calculator_reachable .allowAll .privateText ['/']
    "c/sub/ /'x'".toList .root ⟨2⟩ with ⟨answeredIff, arguments⟩
  have answered := answeredIff.mpr ⟨_, _, 1, comes, rfl, rfl, rfl, by rw [cut]; decide⟩
  refine ⟨calculator_reachable, comes, answered, ?_⟩
  have behind := (arguments _ _ 1 comes rfl rfl answered).1
  rwa [cut] at behind

/-- A command without parameters. -/
def helpDesk : CommandTree Unit :=
  calculatorRoot.build [.addChild .root { codes := ["help"] }, .register ⟨1⟩ {} ()]

/-- A handler without parameters answers although an argument was given, since a blank segment
before it fills the bound. -/
theorem bare_answer_with_argument :
    helpDesk.Reachable ∧
    helpDesk.HandedDown ['/'] .root "help//topic".toList ⟨1⟩ "/topic".toList ∧
    (helpDesk.resolve .allowAll .privateText ['/'] .root "help//topic".toList).AnsweredBy ⟨1⟩ 0 ∧
    splitTokens "/topic".toList ['/'] none = ["topic".toList] := by
  have handed : helpDesk.handOver? ['/'] .root "help//topic".toList =
      some (⟨1⟩, "/topic".toList) := by
    decide +kernel
  have answered : helpDesk.resolve .allowAll .privateText ['/'] .root "help//topic".toList =
      .matched ⟨1⟩ [] := by
    decide +kernel
  refine ⟨(Reachable.ofRoot calculatorRoot_created).build _, .passes handed .stays,
    Or.inl ⟨[], rfl, answered⟩, ?_⟩
  decide +kernel

end CommandTree

end Switchboard
