import Switchboard.Proofs.Token.Segments
import Switchboard.Proofs.Tree.WellFormed
import Switchboard.Tree.Resolution

/-!
# Resolution as a walk

Resolution splits what is left of a text anew at every node on its way down. The walk of this
module has the segments of the whole text from the beginning and only takes them one by one. On
every tree that assembly can produce the two give the same answer.

The one text on which they could differ has segments for neither of them: a text of quote
characters is not empty and still names no child, because no entry of a reachable tree has an
empty key.
-/

namespace Switchboard

variable {Action : Type}

namespace CommandTree

/-- The answer of a tree to segments below a node. The node reads its arguments from the first
segments, as many as its highest arity but at least one, or from all of them if it has no handler.
If it has no handler for what they hold, the first segment names the child that goes on. -/
def walk (tree : CommandTree Action) (check : ScopeCheck) (channelKind : ChannelKind) (id : NodeId)
    (remaining : List (List Char)) : Resolution :=
  match tree.node? id with
  | none => .noMatch
  | some node =>
    let tokens := tokensOfPieces (boundedBy node.maxArity? remaining)
    match node.handler? tokens.length with
    | some handler =>
      if check handler.scope channelKind then
        .matched id (tokens.map String.ofList)
      else
        .outOfScope id handler.arity ⟨handler.scope.rejection channelKind⟩
    | none =>
      match remaining with
      | [] => .noMatch
      | first :: others =>
        match node.childId? (String.ofList (trim first)) with
        | some child => tree.walk check channelKind child others
        | none => .noMatch

/-- Of the invariant only this is needed, that an empty text names no child. -/
theorem WellFormed.resolve_segments {tree : CommandTree Action} (wellFormed : tree.WellFormed)
    (check : ScopeCheck) (channelKind : ChannelKind) (delimiter : List Char) (id : NodeId)
    (text : List Char) :
    tree.resolve check channelKind delimiter id text =
      tree.walk check channelKind id (segments delimiter text) := by
  -- The descent goes on with what is left of the text, so the induction is on its length.
  induction lengthEq : text.length using Nat.strongRecOn generalizing id text with
  | _ length ih =>
    rw [resolve, walk]
    cases nodeEq : tree.node? id with
    | none => rfl
    | some node =>
      simp only [splitTokens_eq_tokensOfPieces]
      cases node.handler? (tokensOfPieces
          (boundedBy node.maxArity? (segments delimiter text))).length with
      | some handler => rfl
      | none =>
        simp only [splitFirst]
        rcases segments_scanFirst delimiter text with cut | ⟨nothing, firstEq⟩
        · have filled : text ≠ [] := by
            rintro rfl
            simp at cut
          rw [cut]
          simp only [filled, if_false]
          cases node.childId? (String.ofList (trim (scanFirst delimiter false text).1)) with
          | none => rfl
          | some child =>
            have shorter := length_scanFirst_lt delimiter false text filled
            exact ih _ (by omega) child _ rfl
        · rw [nothing, firstEq]
          have unnamed : node.childId? (String.ofList (trim [])) = none :=
            wellFormed.childId?_empty nodeEq
          simp [unnamed]

/-- Splitting the text anew at every node gives the same answer as cutting it once. -/
theorem resolve_eq_walk {tree : CommandTree Action} (reachable : tree.Reachable)
    (check : ScopeCheck) (channelKind : ChannelKind) (delimiter : List Char) (id : NodeId)
    (text : List Char) :
    tree.resolve check channelKind delimiter id text =
      tree.walk check channelKind id (segments delimiter text) :=
  reachable.wellFormed.resolve_segments check channelKind delimiter id text

/-- A quoted code, a quoted argument and a trailing delimiter. -/
theorem resolve_eq_walk_calculator :
    calculator.Reachable ∧
      calculator.resolve .allowAll .privateText ['/'] .root "c/'sub'/\x22a/b\x22/".toList =
        calculator.walk .allowAll .privateText .root
          (segments ['/'] "c/'sub'/\x22a/b\x22/".toList) :=
  ⟨calculator_reachable, resolve_eq_walk calculator_reachable _ _ _ _ _⟩

end CommandTree

end Switchboard
