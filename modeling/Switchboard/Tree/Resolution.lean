import Switchboard.Token.Split
import Switchboard.Tree.Basic

/-!
# Resolution of a text

A text is resolved against a node. If the tokens of the text are as many as a handler of the node
takes, that handler answers, unless its scope forbids it. Otherwise the first token names a child,
and the rest of the text is resolved there.
-/

namespace Switchboard

/-- The answer of a tree to a text. -/
inductive Resolution where
  /-- No handler answers. -/
  | noMatch
  /-- A handler answers, but its scope forbids it. -/
  | outOfScope (node : NodeId) (arity : Nat) (response : Response)
  /-- A handler answers to the tokens. -/
  | matched (node : NodeId) (tokens : List String)
  deriving DecidableEq, Repr

namespace CommandTree

variable {Action : Type}

/-- The answer of a tree to a text below a node. -/
def resolve (tree : CommandTree Action) (check : ScopeCheck) (channelKind : ChannelKind)
    (delimiter : List Char) (id : NodeId) (text : List Char) : Resolution :=
  match tree.node? id with
  | none => .noMatch
  | some node =>
    let tokens := splitTokens text delimiter node.maxArity?
    match node.handler? tokens.length with
    | some handler =>
      if check handler.scope channelKind then
        .matched id (tokens.map String.ofList)
      else
        .outOfScope id handler.arity ⟨handler.scope.rejection channelKind⟩
    | none =>
      if text = [] then
        .noMatch
      else
        match node.childId? (String.ofList (splitFirst text delimiter).1) with
        | some child =>
          tree.resolve check channelKind delimiter child (splitFirst text delimiter).2
        | none => .noMatch
termination_by text.length
decreasing_by exact length_splitFirst_lt delimiter ‹_›

end CommandTree

end Switchboard
