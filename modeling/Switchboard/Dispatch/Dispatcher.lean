import Switchboard.Dispatch.Reply
import Switchboard.Tree.Listing
import Switchboard.Tree.Resolution

/-!
# Dispatch of messages

A message is a command if it begins with the lead of the tree and one of its delimiters. The rest
of the message is resolved against the root. If a handler answers, its use is reported, the tokens
are read as the declared kinds, and the handler runs.
-/

namespace Switchboard

/-- What a handler sees besides its arguments. -/
structure CommandContext (Action : Type) where
  event : TextEvent
  tree : CommandTree Action
  node : NodeId

/-- A tree with everything that a dispatch depends on. -/
structure Dispatcher (Action : Type) where
  tree : CommandTree Action
  check : ScopeCheck
  coercion : Coercion
  /-- What the actions of the tree do. The reply of a handler is taken to be a function of what it
  sees and of its arguments: a handler that keeps a state of its own is not described. -/
  perform : Action → CommandContext Action → Arguments → Reply

/-- What happens when a message is dispatched. -/
structure Dispatch (Action : Type) where
  /-- The uses that are reported. -/
  records : List UsageRecord
  /-- The handler that runs, with its arguments. -/
  call : Option (Handler Action × Arguments)
  result : Except DispatchError (List Response)

namespace CommandTree

variable {Action : Type}

/-- The first delimiter that follows the lead at the beginning of a message, and what comes after
it. -/
def stripCommand? (tree : CommandTree Action) (content : List Char) :
    Option (String × List Char) := do
  let rest ← dropStart? tree.settings.lead.toList content
  tree.settings.delimiters.findSome? fun delimiter =>
    (dropStart? delimiter.toList rest).map fun remaining => (delimiter, remaining)

end CommandTree

namespace Dispatcher

variable {Action : Type}

/-- The answer of the tree to a message. -/
def resolve (dispatcher : Dispatcher Action) (event : TextEvent) : Resolution :=
  match dispatcher.tree.stripCommand? event.content.toList with
  | none => .noMatch
  | some (delimiter, rest) =>
    dispatcher.tree.resolve dispatcher.check event.channelKind delimiter.toList .root rest

/-- The tokens read as the kinds of the parameters, or the error of the first token that cannot be
read. -/
def coerceAll (coercion : Coercion) (parameters : List Parameter) (tokens : List String) :
    Except CoercionError (List Value) :=
  (parameters.zip tokens).mapM fun (parameter, token) => coercion parameter.kind token

/-- The dispatch of tokens to a handler. The use is reported before anything can fail. -/
def callHandler (dispatcher : Dispatcher Action) (event : TextEvent) (handler : Handler Action)
    (node : NodeId) (tokens : List String) : Dispatch Action :=
  let records : List UsageRecord := [⟨handler.feature, event.channelId, event.userId⟩]
  match coerceAll dispatcher.coercion handler.parameters tokens with
  | .error error => ⟨records, none, .error (.coercion error)⟩
  | .ok values =>
    let context : CommandContext Action := ⟨event, dispatcher.tree, node⟩
    ⟨records, some (handler, ⟨values⟩),
      (dispatcher.perform handler.action context ⟨values⟩).responses⟩

/-- The dispatch of a message. -/
def handle (dispatcher : Dispatcher Action) (event : TextEvent) : Dispatch Action :=
  match dispatcher.resolve event with
  | .noMatch => ⟨[], none, .ok []⟩
  | .outOfScope _ _ response => ⟨[], none, .ok [response]⟩
  | .matched node tokens =>
    match dispatcher.tree.handler? node tokens.length with
    | none => ⟨[], none, .ok []⟩
    | some handler => dispatcher.callHandler event handler node tokens

end Dispatcher

end Switchboard
