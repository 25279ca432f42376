import Switchboard.Tree.Assembly
import Switchboard.Tree.Usage

/-!
# Listings

A help page lists the handlers under a node: those of the node itself by arity, then those of its
children in the order of siblings, and in a recursive listing the whole tree below them.
-/

namespace Switchboard

/-- A handler as a help page shows it. -/
structure HandlerListing where
  node : NodeId
  arity : Nat
  usage : String
  usages : List String
  description : String
  scope : CommandScope
  feature : Option Feature
  deriving DecidableEq, Repr

namespace CommandTree

variable {Action : Type}

/-- The line of a help page for a handler. -/
def listing (tree : CommandTree Action) (handler : Handler Action) : HandlerListing where
  node := handler.node
  arity := handler.arity
  usage := tree.handlerUsage handler
  usages := tree.handlerUsages handler
  description := handler.description
  scope := handler.scope
  feature := handler.feature

/-- The handlers of a node and of its children. -/
def nearHandlers (tree : CommandTree Action) (node : CommandNode Action) : List (Handler Action) :=
  node.handlers ++ (tree.children node.id).flatMap CommandNode.handlers

/-- The handlers of a node and of everything below it, as deep as the levels allow. -/
def handlersWithin (tree : CommandTree Action) : Nat → CommandNode Action → List (Handler Action)
  | 0, _ => []
  | levels + 1, node =>
    node.handlers ++ (tree.children node.id).flatMap (tree.handlersWithin levels)

/-- The handlers of a node and of everything below it. -/
def allHandlers (tree : CommandTree Action) (node : CommandNode Action) : List (Handler Action) :=
  tree.handlersWithin tree.size node

/-- The handlers that a help page of a node lists. -/
def listedHandlers (tree : CommandTree Action) (id : NodeId) (recursive : Bool) :
    Except TreeError (List (Handler Action)) :=
  match tree.node? id with
  | none => .error (.nodeNotFound id)
  | some node => .ok (if recursive then tree.allHandlers node else tree.nearHandlers node)

/-- The help page of a node. -/
def listHandlers (tree : CommandTree Action) (id : NodeId) (recursive : Bool) :
    Except TreeError (List HandlerListing) :=
  (tree.listedHandlers id recursive).map fun handlers => handlers.map tree.listing

end CommandTree

end Switchboard
