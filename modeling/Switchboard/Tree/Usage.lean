import Switchboard.Tree.Basic

/-!
# Usage strings

The usage of a node is what a message writes to reach it: the lead and one code for each node on
the way, with the main delimiter between them. With the first code of every node this is the usage
of the node; with every choice of codes it is the list of all its usages. The usage of a handler
goes on with its parameters.
-/

namespace Switchboard

namespace CommandTree

variable {Action : Type}

/-- The nodes from a node up to the root, as long as the steps allow. -/
def lineageWithin (tree : CommandTree Action) : Nat → CommandNode Action → List (CommandNode Action)
  | 0, _ => []
  | steps + 1, node =>
    node :: match node.parent?.bind tree.node? with
      | some parent => tree.lineageWithin steps parent
      | none => []

/-- The nodes from a node up to the root. -/
def lineage (tree : CommandTree Action) (node : CommandNode Action) : List (CommandNode Action) :=
  tree.lineageWithin tree.size node

/-- Texts with the main delimiter between them. -/
def joinMain (tree : CommandTree Action) (parts : List String) : String :=
  tree.settings.mainDelimiter.intercalate parts

/-- The usage of a node through the first code of every node on the way. -/
def nodeUsage (tree : CommandTree Action) (node : CommandNode Action) : String :=
  tree.joinMain ((tree.lineage node).reverse.map fun step =>
    step.primaryCode?.getD tree.settings.lead)

/-- Every choice of one text from each list, put in front of texts that are chosen already. The
choice from the first list varies slowest and stands last among the new texts. -/
def choices : List (List String) → List String → List (List String)
  | [], chosen => [chosen]
  | options :: rest, chosen => options.flatMap fun option => choices rest (option :: chosen)

/-- The usages of a node through every choice of codes. The code of the node itself varies
slowest. -/
def nodeUsages (tree : CommandTree Action) (node : CommandNode Action) : List String :=
  let codes := ((tree.lineage node).filter (!·.isRoot)).map CommandNode.codes
  (choices codes []).map fun chosen => tree.joinMain (tree.settings.lead :: chosen)

/-- A usage followed by the parameters of a handler, trimmed. -/
def withParameters (tree : CommandTree Action) (usage : String) (handler : Handler Action) :
    String :=
  let parameters := handler.parameters.map fun parameter =>
    tree.settings.mainDelimiter ++ "(" ++ parameter.name ++ ")"
  trimString (usage ++ String.join parameters)

/-- The usage of a handler through the first code of every node on the way. -/
def handlerUsage (tree : CommandTree Action) (handler : Handler Action) : String :=
  match tree.node? handler.node with
  | some node => tree.withParameters (tree.nodeUsage node) handler
  | none => ""

/-- The usages of a handler through every choice of codes. -/
def handlerUsages (tree : CommandTree Action) (handler : Handler Action) : List String :=
  match tree.node? handler.node with
  | some node => (tree.nodeUsages node).map fun usage => tree.withParameters usage handler
  | none => []

end CommandTree

end Switchboard
