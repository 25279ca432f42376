import Switchboard.Argument.List
import Switchboard.Message
import Switchboard.Scope
import Switchboard.Text.Blank
import Switchboard.Text.Lowercase

/-!
# Command trees

Commands form a tree. A node is reached from its parent through one of its codes and carries
handlers, at most one for each number of arguments. The nodes are kept in the order of their
creation and refer to each other by their position in it.

The tree says what handlers are for, but not what they do: a handler holds an action of a type
that the tree leaves open.
-/

namespace Switchboard

/-- The position of a node in the order of creation. -/
structure NodeId where
  index : Nat
  deriving DecidableEq, Repr

namespace NodeId

/-- The root, which is created with its tree. -/
def root : NodeId :=
  ⟨0⟩

/-- The text of a position in messages. -/
def text (id : NodeId) : String :=
  "#" ++ naturalText id.index

end NodeId

/-- What introduces a command in a message: the lead of every command, and the delimiters between
its parts by descending priority. -/
structure TreeSettings where
  lead : String
  delimiters : List String
  deriving DecidableEq, Repr

namespace TreeSettings

/-- The delimiter of usage strings. -/
def mainDelimiter (settings : TreeSettings) : String :=
  settings.delimiters.headD ""

end TreeSettings

/-- The declaration of a root. -/
structure RootDeclaration where
  lead : String
  delimiters : List String
  caseInsensitive : Bool := true
  name : Option String := none
  description : Option String := none
  deriving DecidableEq, Repr

/-- The declaration of a node below the root. -/
structure NodeDeclaration where
  codes : List String
  order : Int := 0
  name : Option String := none
  description : Option String := none
  brief : Option String := none
  /-- Whether the codes of its children match in any case; taken from the parent if absent. -/
  caseInsensitive : Option Bool := none
  deriving DecidableEq, Repr

/-- The declaration of a handler. -/
structure HandlerDeclaration where
  parameters : List Parameter := []
  argumentHelp : List String := []
  scope : CommandScope := .unrestricted
  feature : Option Feature := none
  description : Option String := none
  deriving DecidableEq, Repr

namespace HandlerDeclaration

/-- The number of declared parameters. -/
def arity (declaration : HandlerDeclaration) : Nat :=
  declaration.parameters.length

end HandlerDeclaration

/-- A handler on its node. -/
structure Handler (Action : Type) where
  node : NodeId
  parameters : List Parameter
  /-- One help text for each parameter. -/
  argumentHelp : List String
  scope : CommandScope
  feature : Option Feature
  description : String
  action : Action

namespace Handler

variable {Action : Type}

/-- The number of arguments that a handler answers to. -/
def arity (handler : Handler Action) : Nat :=
  handler.parameters.length

/-- The description of a handler that has neither a feature nor a description. -/
def defaultDescription : String :=
  "No description provided."

/-- A list brought to a length, by dropping its end or by adding empty texts. -/
def resize (texts : List String) (length : Nat) : List String :=
  texts.take length ++ List.replicate (length - texts.length) ""

@[simp]
theorem length_resize (texts : List String) (length : Nat) :
    (resize texts length).length = length := by
  simp only [resize, List.length_append, List.length_take, List.length_replicate]
  omega

/-- The handler that a declaration puts on a node. The description of a feature goes before the
description of the handler itself. -/
def ofDeclaration (node : NodeId) (declaration : HandlerDeclaration) (action : Action) :
    Handler Action where
  node := node
  parameters := declaration.parameters
  argumentHelp := resize declaration.argumentHelp declaration.arity
  scope := declaration.scope
  feature := declaration.feature
  description := match declaration.feature with
    | some feature => feature.description
    | none => declaration.description.getD defaultDescription
  action := action

@[simp]
theorem arity_ofDeclaration (node : NodeId) (declaration : HandlerDeclaration) (action : Action) :
    (ofDeclaration node declaration action).arity = declaration.arity :=
  rfl

/-- Each parameter with its help text. -/
def parametersWithHelp (handler : Handler Action) : List (Parameter × String) :=
  handler.parameters.zip handler.argumentHelp

end Handler

/-- The place of a node: the root, or below a parent that knows it by its codes. -/
inductive Place where
  | root
  | below (parent : NodeId) (codes : List String)
  deriving DecidableEq, Repr

/-- One node of a command tree. -/
structure CommandNode (Action : Type) where
  id : NodeId
  place : Place
  order : Int
  name : Option String
  description : Option String
  brief : Option String
  /-- Whether the codes of the children match in any case. -/
  caseInsensitive : Bool
  /-- The children by folded code; a child has one entry for each of its codes. -/
  children : List (String × NodeId)
  /-- The handlers in ascending order of the arities under which they are kept. -/
  handlersByArity : List (Nat × Handler Action)

namespace CommandNode

variable {Action : Type}

/-- The root that a declaration describes. -/
def ofRoot (declaration : RootDeclaration) : CommandNode Action where
  id := .root
  place := .root
  order := 0
  name := declaration.name
  description := declaration.description
  brief := declaration.description
  caseInsensitive := declaration.caseInsensitive
  children := []
  handlersByArity := []

/-- The node below a parent that a declaration describes. -/
def ofDeclaration (id parent : NodeId) (inheritedCase : Bool) (declaration : NodeDeclaration) :
    CommandNode Action where
  id := id
  place := .below parent declaration.codes
  order := declaration.order
  name := declaration.name
  description := declaration.description
  brief := declaration.brief <|> declaration.description
  caseInsensitive := declaration.caseInsensitive.getD inheritedCase
  children := []
  handlersByArity := []

/-- Whether a node is the root. -/
def isRoot (node : CommandNode Action) : Bool :=
  node.place == .root

/-- The codes of a node; the root has none. -/
def codes (node : CommandNode Action) : List String :=
  match node.place with
  | .root => []
  | .below _ codes => codes

/-- The parent of a node; the root has none. -/
def parent? (node : CommandNode Action) : Option NodeId :=
  match node.place with
  | .root => none
  | .below parent _ => some parent

/-- The first code of a node. -/
def primaryCode? (node : CommandNode Action) : Option String :=
  node.codes.head?

/-- The codes of a node after the first one. -/
def aliases (node : CommandNode Action) : List String :=
  node.codes.tail

/-- The form of a code under which its child is kept. -/
def fold (node : CommandNode Action) (code : String) : String :=
  if node.caseInsensitive then lowercase code else code

theorem fold_eq_empty_iff (node : CommandNode Action) (code : String) :
    node.fold code = "" ↔ code = "" := by
  unfold fold
  split
  · exact lowercase_eq_empty_iff code
  · rfl

/-- The child that answers to a code. -/
def childId? (node : CommandNode Action) (code : String) : Option NodeId :=
  node.children.lookup (node.fold code)

/-- The handlers of a node in the order of their arities. -/
def handlers (node : CommandNode Action) : List (Handler Action) :=
  node.handlersByArity.map Prod.snd

/-- The handler for a number of arguments. -/
def handler? (node : CommandNode Action) (arity : Nat) : Option (Handler Action) :=
  node.handlersByArity.lookup arity

/-- The highest number of arguments that a handler is kept for. -/
def maxArity? (node : CommandNode Action) : Option Nat :=
  node.handlersByArity.getLast?.map Prod.fst

end CommandNode

/-- A tree of commands. -/
structure CommandTree (Action : Type) where
  settings : TreeSettings
  /-- The nodes in the order of creation, the root first. -/
  nodes : Array (CommandNode Action)

namespace CommandTree

variable {Action : Type}

/-- The number of nodes. -/
def size (tree : CommandTree Action) : Nat :=
  tree.nodes.size

/-- The node at a position. -/
def node? (tree : CommandTree Action) (id : NodeId) : Option (CommandNode Action) :=
  tree.nodes[id.index]?

/-- The handler of a node for a number of arguments. -/
def handler? (tree : CommandTree Action) (id : NodeId) (arity : Nat) : Option (Handler Action) :=
  (tree.node? id).bind (·.handler? arity)

/-- The node that a path of codes leads to from the root. -/
def find? (tree : CommandTree Action) (path : List String) : Option NodeId :=
  path.foldlM (fun current code => (tree.node? current).bind (·.childId? code)) NodeId.root

/-- The order of siblings: by order index, then by creation. -/
def precedes (left right : CommandNode Action) : Bool :=
  left.order < right.order || (left.order == right.order && left.id.index ≤ right.id.index)

/-- The children that a node reaches through a code, each once, in the order of siblings. -/
def children (tree : CommandTree Action) (id : NodeId) : List (CommandNode Action) :=
  match tree.node? id with
  | none => []
  | some node => ((node.children.map Prod.snd).eraseDups.filterMap tree.node?).mergeSort precedes

end CommandTree

end Switchboard
