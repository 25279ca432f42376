import Switchboard.Log
import Switchboard.Text.Quoted
import Switchboard.Text.Start
import Switchboard.Tree.Basic

/-!
# Assembly of a tree

A tree starts from the declaration of its root. Nodes and handlers are added one by one. A call
that fails leaves the tree as it is; a call that takes a code or an arity away from an earlier
node or handler succeeds with a warning.
-/

namespace Switchboard

/-- What a root declaration lacks. -/
inductive RootFault where
  | emptyLead
  | noDelimiter
  | emptyDelimiter
  deriving DecidableEq, Repr

namespace RootFault

/-- The wording of a fault. -/
def message : RootFault → String
  | emptyLead => "the root requires a prefix"
  | noDelimiter => "the root requires at least one delimiter"
  | emptyDelimiter => "delimiters must not be empty"

end RootFault

/-- The reasons for which a step of the assembly fails. -/
inductive TreeError where
  | malformedRoot (fault : RootFault)
  | emptyCodes
  | blankCode
  | nodeNotFound (id : NodeId)
  deriving DecidableEq, Repr

namespace TreeError

/-- The wording of an error. -/
def message : TreeError → String
  | malformedRoot fault => "malformed root declaration: " ++ fault.message
  | emptyCodes => "a command node requires at least one code"
  | blankCode => "command codes must not be blank"
  | nodeNotFound id => "command node " ++ id.text ++ " does not exist in this tree"

end TreeError

/-- What a successful step of the assembly warns about. -/
inductive TreeWarning where
  | unreachableCode (code delimiter : String)
  | codeReplaced (code : String) (parent replaced replacement : NodeId)
  | handlerReplaced (node : NodeId) (code : String) (arity : Nat)
  deriving DecidableEq, Repr

namespace TreeWarning

/-- The log entry of a warning. -/
def entry : TreeWarning → LogEntry
  | unreachableCode code delimiter =>
    ⟨"Command code contains a delimiter and can never be matched",
      [("code", .text code), ("delimiter", .text (quoted delimiter))]⟩
  | codeReplaced code parent replaced replacement =>
    ⟨"Command code already registered under this node, replacing it",
      [("code", .text code), ("parent", .text parent.text), ("replaced", .text replaced.text),
        ("replacement", .text replacement.text)]⟩
  | handlerReplaced node code arity =>
    ⟨"A handler is already registered for this arity, replacing it",
      [("node", .text node.text), ("code", .text code), ("arity", .count arity)]⟩

end TreeWarning

namespace TreeSettings

/-- What is wrong with the lead and the delimiters of a root, the lead being looked at first. -/
def fault? (settings : TreeSettings) : Option RootFault :=
  if settings.lead.isEmpty then
    some .emptyLead
  else if settings.delimiters.isEmpty then
    some .noDelimiter
  else if settings.delimiters.any String.isEmpty then
    some .emptyDelimiter
  else
    none

theorem fault?_eq_none_iff {settings : TreeSettings} :
    settings.fault? = none ↔ settings.lead ≠ "" ∧ settings.delimiters ≠ [] ∧
      ∀ delimiter ∈ settings.delimiters, delimiter ≠ "" := by
  unfold fault?
  by_cases noLead : settings.lead = ""
  · simp [noLead]
  · by_cases noDelimiter : settings.delimiters = []
    · simp [noLead, noDelimiter]
    · have filledIff : settings.delimiters.any String.isEmpty = false ↔
          ∀ delimiter ∈ settings.delimiters, delimiter ≠ "" := by
        rw [List.any_eq_false]
        simp only [String.isEmpty_iff, ne_eq]
      rw [← filledIff]
      cases settings.delimiters.any String.isEmpty <;> simp [noLead, noDelimiter]

end TreeSettings

namespace CommandNode

variable {Action : Type}

/-- Child entries in which a key leads to a child. An entry of the same key is overwritten. -/
def assign (key : String) (child : NodeId) : List (String × NodeId) → List (String × NodeId)
  | [] => [(key, child)]
  | (other, id) :: rest =>
    if other = key then (key, child) :: rest else (other, id) :: assign key child rest

/-- Child entries in which every key of a list leads to a child, with a warning for each key that
led to another child before. -/
def assignAll (parent child : NodeId) (entries : List (String × NodeId)) :
    List String → List (String × NodeId) × List TreeWarning
  | [] => (entries, [])
  | key :: rest =>
    let warnings := match entries.lookup key with
      | some previous =>
        if previous = child then [] else [.codeReplaced key parent previous child]
      | none => []
    let (final, others) := assignAll parent child (assign key child entries) rest
    (final, warnings ++ others)

/-- Handlers by ascending arity in which a handler is kept under an arity, in the place of one that
was kept there before. -/
def placeHandler (arity : Nat) (handler : Handler Action) :
    List (Nat × Handler Action) → List (Nat × Handler Action)
  | [] => [(arity, handler)]
  | (other, present) :: rest =>
    if arity < other then
      (arity, handler) :: (other, present) :: rest
    else if arity = other then
      (arity, handler) :: rest
    else
      (other, present) :: placeHandler arity handler rest

end CommandNode

namespace CommandTree

variable {Action : Type}

/-- The tree of a root without children. -/
def ofRoot (declaration : RootDeclaration) : Except TreeError (CommandTree Action) :=
  let settings : TreeSettings := ⟨declaration.lead, declaration.delimiters⟩
  match settings.fault? with
  | some fault => .error (.malformedRoot fault)
  | none => .ok ⟨settings, #[CommandNode.ofRoot declaration]⟩

/-- The warnings about codes that hold a delimiter of the tree, each with the first such
delimiter. -/
def unreachableCodes (tree : CommandTree Action) (codes : List String) : List TreeWarning :=
  codes.filterMap fun code =>
    (tree.settings.delimiters.find? fun delimiter => occursIn delimiter.toList code.toList).map
      (TreeWarning.unreachableCode code)

/-- The tree with a new child of a node, the position of the child, and what the step warns
about. A code of the child that leads to another child is taken away from it. -/
def addChild (tree : CommandTree Action) (parent : NodeId) (declaration : NodeDeclaration) :
    Except TreeError (CommandTree Action × NodeId × List TreeWarning) :=
  if declaration.codes.isEmpty then
    .error .emptyCodes
  else if declaration.codes.any isBlankString then
    .error .blankCode
  else
    match tree.node? parent with
    | none => .error (.nodeNotFound parent)
    | some parentNode =>
      let id : NodeId := ⟨tree.size⟩
      let node := CommandNode.ofDeclaration id parent parentNode.caseInsensitive declaration
      let keys := declaration.codes.map parentNode.fold
      let (entries, replaced) := CommandNode.assignAll parent id parentNode.children keys
      let nodes := tree.nodes.modify parent.index fun existing =>
        { existing with children := entries }
      .ok ({ tree with nodes := nodes.push node }, id,
        tree.unreachableCodes declaration.codes ++ replaced)

/-- The tree with a handler on a node, and what the step warns about. A handler of the same arity
is replaced. -/
def register (tree : CommandTree Action) (id : NodeId) (declaration : HandlerDeclaration)
    (action : Action) : Except TreeError (CommandTree Action × List TreeWarning) :=
  match tree.node? id with
  | none => .error (.nodeNotFound id)
  | some node =>
    let arity := declaration.arity
    let handler := Handler.ofDeclaration id declaration action
    let warnings := match node.handler? arity with
      | some _ => [.handlerReplaced id (node.primaryCode?.getD "<root>") arity]
      | none => []
    let nodes := tree.nodes.modify id.index fun existing =>
      { existing with
        handlersByArity := CommandNode.placeHandler arity handler existing.handlersByArity }
    .ok ({ tree with nodes := nodes }, warnings)

end CommandTree

/-- A function that adds commands to a tree. -/
abbrev CommandBuilder (Action : Type) :=
  CommandTree Action → Except TreeError (CommandTree Action)

/-- A step of a builder that is given as a list. -/
inductive BuildStep (Action : Type) where
  | addChild (parent : NodeId) (declaration : NodeDeclaration)
  | register (node : NodeId) (declaration : HandlerDeclaration) (action : Action)

namespace BuildStep

variable {Action : Type}

/-- The tree after a step, and what the step warns about. -/
def apply (tree : CommandTree Action) :
    BuildStep Action → Except TreeError (CommandTree Action × List TreeWarning)
  | addChild parent declaration =>
    (tree.addChild parent declaration).map fun (tree, _, warnings) => (tree, warnings)
  | register node declaration action => tree.register node declaration action

/-- The builder that takes steps in order and fails with the first one that fails. -/
def builder (steps : List (BuildStep Action)) : CommandBuilder Action :=
  fun tree => steps.foldlM (fun tree step => (step.apply tree).map Prod.fst) tree

end BuildStep

end Switchboard
