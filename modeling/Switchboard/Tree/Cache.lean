import Switchboard.Tree.Listing

/-!
# Trees that remember usage strings

Usage strings are computed when they are first asked for and remembered from then on. Adding a
node or a handler changes no usage that a tree has given before, so only the usages of a replaced
handler have to be forgotten.
-/

namespace Switchboard

/-- A tree with the usage strings that it has given so far. -/
structure CachedTree (Action : Type) where
  tree : CommandTree Action
  nodeUsages : List (NodeId × String) := []
  allNodeUsages : List (NodeId × List String) := []
  handlerUsages : List ((NodeId × Nat) × String) := []
  allHandlerUsages : List ((NodeId × Nat) × List String) := []

namespace CachedTree

variable {Action : Type}

/-- The tree with a new child of a node. -/
def addChild (cached : CachedTree Action) (parent : NodeId) (declaration : NodeDeclaration) :
    Except TreeError (CachedTree Action × NodeId × List TreeWarning) :=
  (cached.tree.addChild parent declaration).map fun (tree, id, warnings) =>
    ({ cached with tree := tree }, id, warnings)

/-- The tree with a handler on a node. What it remembers of a replaced handler is forgotten. -/
def register (cached : CachedTree Action) (id : NodeId) (declaration : HandlerDeclaration)
    (action : Action) : Except TreeError (CachedTree Action × List TreeWarning) :=
  (cached.tree.register id declaration action).map fun (tree, warnings) =>
    let stays {α : Type} (entry : (NodeId × Nat) × α) := entry.1 != (id, declaration.arity)
    ({ cached with
        tree := tree
        handlerUsages := cached.handlerUsages.filter stays
        allHandlerUsages := cached.allHandlerUsages.filter stays }, warnings)

/-- The usage of a node through first codes. -/
def nodeUsage (node : CommandNode Action) : StateM (CachedTree Action) String := do
  let cached ← get
  match cached.nodeUsages.lookup node.id with
  | some usage => return usage
  | none =>
    let usage := cached.tree.nodeUsage node
    set { cached with nodeUsages := (node.id, usage) :: cached.nodeUsages }
    return usage

/-- The usages of a node through every choice of codes. -/
def allUsagesOfNode (node : CommandNode Action) : StateM (CachedTree Action) (List String) := do
  let cached ← get
  match cached.allNodeUsages.lookup node.id with
  | some usages => return usages
  | none =>
    let usages := cached.tree.nodeUsages node
    set { cached with allNodeUsages := (node.id, usages) :: cached.allNodeUsages }
    return usages

/-- The usage of a handler through first codes, made from the usage of its node. -/
def composeUsage (handler : Handler Action) : StateM (CachedTree Action) String := do
  let tree := (← get).tree
  match tree.node? handler.node with
  | some node => return tree.withParameters (← nodeUsage node) handler
  | none => return ""

/-- The usage of a handler through first codes. -/
def handlerUsage (handler : Handler Action) : StateM (CachedTree Action) String := do
  let key := (handler.node, handler.arity)
  match (← get).handlerUsages.lookup key with
  | some usage => return usage
  | none =>
    let usage ← composeUsage handler
    modify fun cached => { cached with handlerUsages := (key, usage) :: cached.handlerUsages }
    return usage

/-- The usages of a handler through every choice of codes, made from the usages of its node. -/
def composeUsages (handler : Handler Action) : StateM (CachedTree Action) (List String) := do
  let tree := (← get).tree
  match tree.node? handler.node with
  | some node =>
    return (← allUsagesOfNode node).map fun usage => tree.withParameters usage handler
  | none => return []

/-- The usages of a handler through every choice of codes. -/
def allUsagesOfHandler (handler : Handler Action) :
    StateM (CachedTree Action) (List String) := do
  let key := (handler.node, handler.arity)
  match (← get).allHandlerUsages.lookup key with
  | some usages => return usages
  | none =>
    let usages ← composeUsages handler
    modify fun cached =>
      { cached with allHandlerUsages := (key, usages) :: cached.allHandlerUsages }
    return usages

/-- Computes every usage string of a tree ahead of the first question. -/
def warm : StateM (CachedTree Action) Unit := do
  for node in (← get).tree.nodes.toList do
    discard (nodeUsage node)
    discard (allUsagesOfNode node)
    for handler in node.handlers do
      discard (handlerUsage handler)
      discard (allUsagesOfHandler handler)

/-- The line of a help page for a handler. -/
def listing (handler : Handler Action) : StateM (CachedTree Action) HandlerListing := do
  return {
    node := handler.node
    arity := handler.arity
    usage := ← handlerUsage handler
    usages := ← allUsagesOfHandler handler
    description := handler.description
    scope := handler.scope
    feature := handler.feature }

/-- The help page of a node. -/
def listHandlers (id : NodeId) (recursive : Bool) :
    StateM (CachedTree Action) (Except TreeError (List HandlerListing)) := do
  match (← get).tree.listedHandlers id recursive with
  | .error error => return .error error
  | .ok handlers => return .ok (← handlers.mapM listing)

end CachedTree

end Switchboard
