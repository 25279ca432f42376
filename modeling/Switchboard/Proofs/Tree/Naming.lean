import Switchboard.Proofs.Text.Lowercase
import Switchboard.Proofs.Tree.Barrier
import Switchboard.Proofs.Tree.Extension

/-!
# Codes that a message can name

A code is named by a first piece that has the same form for its node. First pieces are trimmed and
hold no quote character, and every text of this kind is the first piece of the text that encloses
it, whatever the delimiter is. So it does not matter to a code whether a delimiter occurs in it, and
a warning about that says nothing about whether the code can be named.
-/

namespace Switchboard

variable {Action : Type}

theorem occursIn_iff {part text : List Char} : occursIn part text = true ↔ part <:+: text := by
  induction text with
  | nil => simp [occursIn]
  | cons character rest ih =>
    have startsIff : (dropStart? part (character :: rest)).isSome = true ↔
        part <+: character :: rest := by
      rw [Option.isSome_iff_exists]
      constructor
      · rintro ⟨remaining, found⟩
        exact ⟨remaining, (dropStart?_eq_some_iff.mp found).symm⟩
      · rintro ⟨remaining, start⟩
        exact ⟨remaining, dropStart?_eq_some_iff.mpr start.symm⟩
    rw [occursIn, Bool.or_eq_true, ih, startsIff, List.infix_cons_iff]

theorem plain_lowercase_iff (code : String) : Plain (lowercase code) ↔ Plain code := by
  constructor
  · rintro ⟨trimmed, unquoted⟩
    simp only [lowercase, String.toList_ofList] at trimmed unquoted
    exact ⟨(trim_lowercaseAfter_iff _ _).mp trimmed, (unquoted_lowercaseAfter_iff _ _).mp unquoted⟩
  · rintro ⟨trimmed, unquoted⟩
    constructor <;> simp only [lowercase, String.toList_ofList]
    · exact (trim_lowercaseAfter_iff _ _).mpr trimmed
    · exact (unquoted_lowercaseAfter_iff _ _).mpr unquoted

namespace CommandNode

variable {node : CommandNode Action} {code other : String} {delimiter : List Char}

/-- Codes of one form are plain or not together. -/
theorem plain_iff_of_fold_eq (sameForm : node.fold code = node.fold other) :
    Plain code ↔ Plain other := by
  rw [fold, fold] at sameForm
  split at sameForm
  · rw [← plain_lowercase_iff code, sameForm, plain_lowercase_iff]
  · rw [sameForm]

/-- A code can be named exactly if it is plain. -/
theorem named_iff_plain (filled : delimiter ≠ []) (node : CommandNode Action) (code : String) :
    (∃ text, node.fold (String.ofList (splitFirst text delimiter).1) = node.fold code) ↔
      Plain code := by
  constructor
  · rintro ⟨text, sameForm⟩
    exact (plain_iff_of_fold_eq sameForm).mp (plain_splitFirst text delimiter)
  · intro plain
    rcases exists_encloses delimiter with ⟨quote, encloses⟩
    have first : splitFirst (joinEnclosed delimiter [quote] [code.toList]) delimiter =
        (code.toList, joinEnclosed delimiter [] []) :=
      splitFirst_joinEnclosed filled encloses rfl plain.trimmed plain.unquoted
    exact ⟨_, by rw [first, String.ofList_toList]⟩

theorem childId?_eq_of_fold_eq (sameForm : node.fold code = node.fold other) :
    node.childId? code = node.childId? other := by
  rw [childId?, childId?, sameForm]

end CommandNode

namespace CommandTree

variable {tree next : CommandTree Action} {id child parent : NodeId} {node : CommandNode Action}
  {code : String} {delimiter : List Char}

/-- A code is warned about exactly if a delimiter occurs in it. -/
theorem warned_iff {declaration : NodeDeclaration} {warnings : List TreeWarning}
    (added : tree.addChild parent declaration = .ok (next, id, warnings))
    (codeMem : code ∈ declaration.codes) :
    (∃ mark, .unreachableCode code mark ∈ warnings) ↔
      ∃ mark ∈ tree.settings.delimiters, mark.toList <:+: code.toList := by
  rcases childAdded_of_addChild added with ⟨parentNode, _, rfl⟩
  have replaced (mark : String) : TreeWarning.unreachableCode code mark ∉
      (CommandNode.assignAll parent id parentNode.children
        (declaration.codes.map parentNode.fold)).2 := by
    intro warned
    rw [CommandNode.assignAll_warnings] at warned
    rcases List.mem_filterMap.mp warned with ⟨key, _, warningEq⟩
    rcases Option.bind_eq_some_iff.mp warningEq with ⟨previous, _, different⟩
    split at different <;> cases different
  simp only [List.mem_append, replaced, or_false, unreachableCodes, List.mem_filterMap,
    Option.map_eq_some_iff, TreeWarning.unreachableCode.injEq]
  constructor
  · rintro ⟨mark, own, _, first, firstEq, rfl, rfl⟩
    have occurs := List.find?_some firstEq
    exact ⟨first, List.mem_of_find?_eq_some firstEq, occursIn_iff.mp occurs⟩
  · rintro ⟨mark, markMem, occurs⟩
    have found : (tree.settings.delimiters.find?
        fun mark => occursIn mark.toList code.toList).isSome := by
      rw [List.find?_isSome]
      exact ⟨mark, markMem, occursIn_iff.mpr occurs⟩
    rcases Option.isSome_iff_exists.mp found with ⟨first, firstEq⟩
    exact ⟨first, code, codeMem, first, firstEq, rfl, rfl⟩

/-- A node hands texts over through a code exactly if the code is plain and leads to the child, and
the node does not intercept every number of tokens. -/
theorem WellFormed.handOver?_through_iff (wellFormed : tree.WellFormed)
    (nodeEq : tree.node? id = some node) (filled : delimiter ≠ []) :
    (∃ text rest, tree.handOver? delimiter id text = some (child, rest) ∧
        node.fold (String.ofList (splitFirst text delimiter).1) = node.fold code) ↔
      Plain code ∧ node.childId? code = some child ∧
        ∃ count, 1 ≤ count ∧ ¬node.Intercepts count := by
  constructor
  · rintro ⟨text, rest, handed, sameForm⟩
    rcases (handOver?_eq_some_iff nodeEq).mp handed with ⟨_, _, childEq, _⟩
    refine ⟨(CommandNode.named_iff_plain filled node code).mp ⟨text, sameForm⟩, ?_,
      wellFormed.exists_not_intercepts nodeEq handed⟩
    rwa [← CommandNode.childId?_eq_of_fold_eq sameForm]
  · rintro ⟨plain, childEq, count, positive, passes⟩
    rcases wellFormed.exists_naming nodeEq filled plain childEq positive passes with
      ⟨text, rest, handed, named⟩
    exact ⟨text, rest, handed, by rw [named]⟩

/-- A code of a new child is warned about exactly if a delimiter occurs in it. From then on,
whatever is added later, a first piece can have the form of the code exactly if the code is plain,
warned about or not, and the node above hands texts over to the child through it exactly if moreover
the code still leads to the child and the node does not intercept every number of tokens. -/
theorem warned_code_named_iff {tree next later : CommandTree Action} (reachable : tree.Reachable)
    {parent id : NodeId} {declaration : NodeDeclaration} {warnings : List TreeWarning}
    (added : tree.addChild parent declaration = .ok (next, id, warnings)) {code : String}
    (codeMem : code ∈ declaration.codes) {steps : List (BuildStep Action)}
    (built : next.build steps = later) {node : CommandNode Action}
    (nodeEq : later.node? parent = some node) :
    ((∃ mark, .unreachableCode code mark ∈ warnings) ↔
      ∃ mark ∈ later.settings.delimiters, mark.toList <:+: code.toList) ∧
    ((∃ delimiter ∈ later.settings.delimiters, ∃ text,
        node.fold (String.ofList (splitFirst text delimiter.toList).1) = node.fold code) ↔
      Plain code) ∧
    ((∃ delimiter ∈ later.settings.delimiters, ∃ text rest,
        later.handOver? delimiter.toList parent text = some (id, rest) ∧
          node.fold (String.ofList (splitFirst text delimiter.toList).1) = node.fold code) ↔
      Plain code ∧ node.childId? code = some id ∧ ∃ count, 1 ≤ count ∧ ¬node.Intercepts count) := by
  have applied : BuildStep.apply tree (.addChild parent declaration) = .ok (next, warnings) := by
    rw [BuildStep.apply, added]
    rfl
  have wellFormed : later.WellFormed := by
    rw [← built]
    exact ((Reachable.step reachable applied).build steps).wellFormed
  rcases childAdded_of_addChild added with ⟨_, childAdded, _⟩
  have settingsEq : later.settings = tree.settings := by
    rw [← built, (extends_build next steps).settings_eq, childAdded.settings_eq]
  have sound := TreeSettings.fault?_eq_none_iff.mp wellFormed.settings_sound
  have filled {delimiter : String} (among : delimiter ∈ later.settings.delimiters) :
      delimiter.toList ≠ [] := by
    simpa using sound.2.2 delimiter among
  rcases List.exists_mem_of_ne_nil _ sound.2.1 with ⟨main, mainMem⟩
  refine ⟨?_, ⟨?_, ?_⟩, ⟨?_, ?_⟩⟩
  · rw [settingsEq]
    exact warned_iff added codeMem
  · rintro ⟨delimiter, among, named⟩
    exact (CommandNode.named_iff_plain (filled among) node code).mp named
  · intro plain
    exact ⟨main, mainMem, (CommandNode.named_iff_plain (filled mainMem) node code).mpr plain⟩
  · rintro ⟨delimiter, among, through⟩
    exact (wellFormed.handOver?_through_iff nodeEq (filled among)).mp through
  · intro possible
    exact ⟨main, mainMem,
      (wellFormed.handOver?_through_iff nodeEq (filled mainMem)).mpr possible⟩

/-- A tree with a code that holds a delimiter. -/
def slashRoot : CommandTree Unit :=
  calculatorRoot.build [.addChild .root { codes := ["e/cho"] }]

theorem slashRoot_added :
    calculatorRoot.addChild .root { codes := ["e/cho"] } =
      .ok (slashRoot, ⟨1⟩, [.unreachableCode "e/cho" "/"]) :=
  rfl

/-- The tree with a handler without parameters behind that code. -/
def slashTree : CommandTree Unit :=
  slashRoot.build [.register ⟨1⟩ {} ()]

/-- The code with a delimiter is warned about, and texts are handed over through it. -/
theorem warned_code_named_iff_slashTree :
    calculatorRoot.Reachable ∧
    calculatorRoot.addChild .root { codes := ["e/cho"] } =
      .ok (slashRoot, ⟨1⟩, [.unreachableCode "e/cho" "/"]) ∧
    ∃ root, slashTree.node? .root = some root ∧
      (∃ mark ∈ slashTree.settings.delimiters, mark.toList <:+: "e/cho".toList) ∧
      ∃ delimiter ∈ slashTree.settings.delimiters, ∃ text rest,
        slashTree.handOver? delimiter.toList .root text = some (⟨1⟩, rest) ∧
          root.fold (String.ofList (splitFirst text delimiter.toList).1) = root.fold "e/cho" := by
  have reachable := Reachable.ofRoot calculatorRoot_created
  let root := (slashTree.node? .root).get (by decide)
  have rootEq : slashTree.node? .root = some root := rfl
  have codeMem : "e/cho" ∈ (NodeDeclaration.codes { codes := ["e/cho"] }) := List.mem_cons_self
  have known : root.childId? "e/cho" = some ⟨1⟩ := by decide +kernel
  have passes : ¬root.Intercepts 1 := by decide +kernel
  have plain : Plain "e/cho" := by constructor <;> decide +kernel
  rcases warned_code_named_iff reachable slashRoot_added codeMem rfl rootEq with
    ⟨warned, _, through⟩
  exact ⟨reachable, slashRoot_added, root, rootEq, warned.mp ⟨"/", List.mem_cons_self⟩,
    through.mpr ⟨plain, known, 1, Nat.le_refl 1, passes⟩⟩

/-- A quoted text names a code that can never be matched according to the warning about it. -/
theorem unreachable_code_reached :
    slashTree.Reachable ∧
    calculatorRoot.addChild .root { codes := ["e/cho"] } =
      .ok (slashRoot, ⟨1⟩, [.unreachableCode "e/cho" "/"]) ∧
    splitFirst "'e/cho'".toList ['/'] = ("e/cho".toList, []) ∧
    slashTree.handOver? ['/'] .root "'e/cho'".toList = some (⟨1⟩, []) ∧
    slashTree.resolve .allowAll .privateText ['/'] .root "'e/cho'".toList = .matched ⟨1⟩ [] := by
  refine ⟨((Reachable.ofRoot calculatorRoot_created).build _).build _, slashRoot_added, ?_, ?_, ?_⟩
  · decide +kernel
  · decide +kernel
  · decide +kernel

end CommandTree

end Switchboard
