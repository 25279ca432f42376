import Switchboard.Proofs.Dispatch.Invocation

/-!
# Delimiters of a tree

A message is stripped of the first delimiter of the list that follows the lead. A delimiter that
begins with one that comes before it is dead: whatever it begins, the other one begins as well. Dead
delimiters can be taken off a list, any number of them at once. The one that comes before a dead
delimiter may be dead itself and be taken off too; but the first of all the delimiters that begin a
text is never dead.
-/

namespace Switchboard

variable {Action : Type}

theorem dropStart?_eq_none_iff {start text : List Char} :
    dropStart? start text = none ↔ ¬start <+: text := by
  rw [Option.eq_none_iff_forall_ne_some]
  simp only [ne_eq, dropStart?_eq_some_iff]
  constructor
  · rintro unstarted ⟨rest, rfl⟩
    exact unstarted rest rfl
  · rintro unstarted rest rfl
    exact unstarted (List.prefix_append start rest)

/-- Some delimiter of a list begins a text. -/
def SomeBegins (delimiters : List String) (text : List Char) : Prop :=
  ∃ delimiter ∈ delimiters, delimiter.toList <+: text

instance (delimiters : List String) (text : List Char) :
    Decidable (SomeBegins delimiters text) :=
  inferInstanceAs (Decidable (∃ delimiter ∈ delimiters, delimiter.toList <+: text))

theorem someBegins_concat {delimiters : List String} {delimiter : String} {text : List Char} :
    SomeBegins (delimiters ++ [delimiter]) text ↔
      SomeBegins delimiters text ∨ delimiter.toList <+: text := by
  simp [SomeBegins, or_and_right, exists_or]

theorem SomeBegins.of_prefix {delimiters : List String} {short long : List Char}
    (begins : SomeBegins delimiters short) (shorter : short <+: long) :
    SomeBegins delimiters long := by
  rcases begins with ⟨delimiter, among, start⟩
  exact ⟨delimiter, among, start.trans shorter⟩

/-- A delimiter with what follows it, if it begins a text. -/
def cutDelimiter? (text : List Char) (delimiter : String) : Option (String × List Char) :=
  (dropStart? delimiter.toList text).map fun rest => (delimiter, rest)

theorem cutDelimiter?_eq_some_iff {text rest : List Char} {candidate delimiter : String} :
    cutDelimiter? text candidate = some (delimiter, rest) ↔
      candidate = delimiter ∧ text = delimiter.toList ++ rest := by
  simp only [cutDelimiter?, Option.map_eq_some_iff, dropStart?_eq_some_iff, Prod.mk.injEq]
  constructor
  · rintro ⟨_, rfl, rfl, rfl⟩
    exact ⟨rfl, rfl⟩
  · rintro ⟨rfl, rfl⟩
    exact ⟨rest, rfl, rfl, rfl⟩

theorem cutDelimiter?_eq_none_iff {text : List Char} {candidate : String} :
    cutDelimiter? text candidate = none ↔ ¬candidate.toList <+: text := by
  rw [cutDelimiter?, Option.map_eq_none_iff, dropStart?_eq_none_iff]

theorem findSome?_cutDelimiter?_eq_none_iff {delimiters : List String} {text : List Char} :
    delimiters.findSome? (cutDelimiter? text) = none ↔ ¬SomeBegins delimiters text := by
  simp [List.findSome?_eq_none_iff, cutDelimiter?_eq_none_iff, SomeBegins]

/-- The delimiter found is the first of those that begin the text. -/
theorem findSome?_cutDelimiter?_eq_some_iff {delimiters : List String} {text rest : List Char}
    {delimiter : String} :
    delimiters.findSome? (cutDelimiter? text) = some (delimiter, rest) ↔
      ∃ before after, delimiters = before ++ delimiter :: after ∧
        text = delimiter.toList ++ rest ∧ ¬SomeBegins before text := by
  rw [List.findSome?_eq_some_iff]
  constructor
  · rintro ⟨before, candidate, after, splitEq, cut, unmatched⟩
    rcases cutDelimiter?_eq_some_iff.mp cut with ⟨rfl, textEq⟩
    refine ⟨before, after, splitEq, textEq, ?_⟩
    rintro ⟨earlier, among, begins⟩
    exact cutDelimiter?_eq_none_iff.mp (unmatched earlier among) begins
  · rintro ⟨before, after, splitEq, textEq, unmatched⟩
    refine ⟨before, delimiter, after, splitEq, cutDelimiter?_eq_some_iff.mpr ⟨rfl, textEq⟩, ?_⟩
    intro earlier among
    exact cutDelimiter?_eq_none_iff.mpr fun begins => unmatched ⟨earlier, among, begins⟩

namespace CommandTree

variable {tree other : CommandTree Action}

theorem stripCommand?_eq (tree : CommandTree Action) (content : List Char) :
    tree.stripCommand? content =
      (dropStart? tree.settings.lead.toList content).bind fun text =>
        tree.settings.delimiters.findSome? (cutDelimiter? text) :=
  rfl

/-- A message is stripped of the lead and the first delimiter that begins what follows it. -/
theorem stripCommand?_eq_some_iff {content rest : List Char} {delimiter : String} :
    tree.stripCommand? content = some (delimiter, rest) ↔
      ∃ before after, tree.settings.delimiters = before ++ delimiter :: after ∧
        content = tree.settings.lead.toList ++ (delimiter.toList ++ rest) ∧
        ¬SomeBegins before (delimiter.toList ++ rest) := by
  rw [stripCommand?_eq, Option.bind_eq_some_iff]
  simp only [dropStart?_eq_some_iff, findSome?_cutDelimiter?_eq_some_iff]
  constructor
  · rintro ⟨_, rfl, before, after, splitEq, rfl, unmatched⟩
    exact ⟨before, after, splitEq, rfl, unmatched⟩
  · rintro ⟨before, after, splitEq, rfl, unmatched⟩
    exact ⟨_, rfl, before, after, splitEq, rfl, unmatched⟩

/-- A message is no command exactly if the lead with none of the delimiters begins it. -/
theorem stripCommand?_eq_none_iff {content : List Char} :
    tree.stripCommand? content = none ↔
      ∀ delimiter ∈ tree.settings.delimiters, ∀ rest,
        content ≠ tree.settings.lead.toList ++ (delimiter.toList ++ rest) := by
  rw [stripCommand?_eq, Option.bind_eq_none_iff]
  simp only [dropStart?_eq_some_iff, findSome?_cutDelimiter?_eq_none_iff]
  constructor
  · rintro unmatched delimiter among rest rfl
    exact unmatched _ rfl ⟨delimiter, among, List.prefix_append _ _⟩
  · rintro unmatched _ rfl ⟨delimiter, among, rest, rfl⟩
    exact unmatched delimiter among rest rfl

/-- The delimiter behind others is taken from some message exactly if none of them begins it. That
it is not one of them tells its place in the list from that of a copy. -/
theorem taken_iff {before after : List String} {delimiter : String}
    (splitEq : tree.settings.delimiters = before ++ delimiter :: after) :
    (∃ content rest, tree.stripCommand? content = some (delimiter, rest) ∧ delimiter ∉ before) ↔
      ¬SomeBegins before delimiter.toList := by
  constructor
  · rintro ⟨content, rest, stripped, fresh⟩ begins
    rcases stripCommand?_eq_some_iff.mp stripped with ⟨front, back, frontEq, _, unmatched⟩
    -- The first copy of the delimiter stands where both ways of splitting the list put it.
    have same : front = before := by
      have freshFront : delimiter ∉ front := by
        intro among
        exact unmatched ⟨delimiter, among, List.prefix_append _ _⟩
      have equal := frontEq.symm.trans splitEq
      have sameLength : front.length = before.length := by
        simpa [List.idxOf_append, freshFront, fresh] using
          congrArg (List.idxOf delimiter) equal
      exact (List.append_inj equal sameLength).1
    rw [same] at unmatched
    exact unmatched (begins.of_prefix (List.prefix_append _ _))
  · intro alive
    refine ⟨_, [], stripCommand?_eq_some_iff.mpr ⟨before, after, splitEq, rfl, ?_⟩, ?_⟩
    · simpa using alive
    · intro among
      exact alive ⟨delimiter, among, List.prefix_refl _⟩

end CommandTree

/-- A list of delimiters that lacks dead ones of another list, each of which begins with a delimiter
that comes before it there. The first list holds what comes before the others. -/
inductive Thinned : List String → List String → List String → Prop
  | nil {before : List String} : Thinned before [] []
  | keep {before later kept : List String} {delimiter : String}
      (others : Thinned (before ++ [delimiter]) later kept) :
      Thinned before (delimiter :: later) (delimiter :: kept)
  | drop {before later kept : List String} {delimiter : String}
      (dead : SomeBegins before delimiter.toList)
      (others : Thinned (before ++ [delimiter]) later kept) :
      Thinned before (delimiter :: later) kept

/-- Where none of the delimiters that come before begins a text, the first one that does is the same
without dead ones. -/
theorem Thinned.findSome?_eq {before delimiters kept : List String}
    (thinned : Thinned before delimiters kept) {text : List Char}
    (unmatched : ¬SomeBegins before text) :
    kept.findSome? (cutDelimiter? text) = delimiters.findSome? (cutDelimiter? text) := by
  induction thinned with
  | nil => rfl
  | @keep before later kept delimiter _ ih =>
    rw [List.findSome?_cons, List.findSome?_cons]
    cases cut : cutDelimiter? text delimiter with
    | some command => rfl
    | none =>
      have passed : ¬SomeBegins (before ++ [delimiter]) text := by
        rw [someBegins_concat, not_or]
        exact ⟨unmatched, cutDelimiter?_eq_none_iff.mp cut⟩
      exact ih passed
  | @drop before later kept delimiter dead _ ih =>
    have passed : ¬delimiter.toList <+: text := by
      intro begins
      exact unmatched (dead.of_prefix begins)
    rw [List.findSome?_cons, cutDelimiter?_eq_none_iff.mpr passed]
    apply ih
    rw [someBegins_concat, not_or]
    exact ⟨unmatched, passed⟩

namespace CommandTree

variable {tree other : CommandTree Action}

/-- A tree that differs from another one only in that its list lacks dead delimiters. -/
structure LacksDead (other tree : CommandTree Action) : Prop where
  same_nodes : other.nodes = tree.nodes
  same_lead : other.settings.lead = tree.settings.lead
  thinned : Thinned [] tree.settings.delimiters other.settings.delimiters

/-- The answer to a text depends on the nodes of a tree only. -/
theorem resolve_congr (sameNodes : other.nodes = tree.nodes) (check : ScopeCheck)
    (channelKind : ChannelKind) (delimiter : List Char) (id : NodeId) (text : List Char) :
    other.resolve check channelKind delimiter id text =
      tree.resolve check channelKind delimiter id text := by
  have sameNode (id : NodeId) : other.node? id = tree.node? id := by
    rw [node?, node?, sameNodes]
  induction lengthEq : text.length using Nat.strongRecOn generalizing id text with
  | _ length ih =>
    rw [resolve, resolve, sameNode]
    cases tree.node? id with
    | none => rfl
    | some node =>
      dsimp only
      split
      · rfl
      · split
        · rfl
        · rename_i filled
          split
          · exact ih _ (lengthEq ▸ length_splitFirst_lt delimiter filled) _ _ rfl
          · rfl

theorem LacksDead.stripCommand?_eq (lacks : LacksDead other tree) (content : List Char) :
    other.stripCommand? content = tree.stripCommand? content := by
  rw [CommandTree.stripCommand?_eq, CommandTree.stripCommand?_eq, lacks.same_lead]
  congr 1
  funext text
  exact lacks.thinned.findSome?_eq (by simp [SomeBegins])

/-- A step of the assembly leaves the delimiters alone and looks at them for its warnings only. -/
theorem LacksDead.attempt (lacks : LacksDead other tree) (step : BuildStep Action) :
    LacksDead (step.attempt other) (step.attempt tree) := by
  rcases tree with ⟨settings, nodes⟩
  rcases other with ⟨otherSettings, otherNodes⟩
  rcases lacks with ⟨sameNodes, sameLead, thinned⟩
  cases sameNodes
  have withNodes (nodes : Array (CommandNode Action)) :
      LacksDead ⟨otherSettings, nodes⟩ ⟨settings, nodes⟩ :=
    ⟨rfl, sameLead, thinned⟩
  cases step with
  | addChild parent declaration =>
    simp only [BuildStep.attempt, BuildStep.apply, addChild, node?]
    by_cases empty : declaration.codes.isEmpty
    · simp only [empty, if_true]
      exact withNodes _
    · by_cases blank : declaration.codes.any isBlankString
      · simp only [empty, blank, if_true]
        exact withNodes _
      · cases nodes[parent.index]? with
        | none =>
          simp only [empty, blank]
          exact withNodes _
        | some parentNode =>
          simp only [empty, blank]
          exact withNodes _
  | register node declaration action =>
    simp only [BuildStep.attempt, BuildStep.apply, register, node?]
    cases nodes[node.index]? with
    | none => exact withNodes _
    | some host => exact withNodes _

/-- Trees that are built in the same way differ in dead delimiters only if their roots do. -/
theorem LacksDead.build (lacks : LacksDead other tree) (steps : List (BuildStep Action)) :
    LacksDead (other.build steps) (tree.build steps) := by
  induction steps generalizing other tree with
  | nil => exact lacks
  | cons step rest ih => exact ih (lacks.attempt step)

end CommandTree

namespace Dispatcher

/-- A message is stripped of the first delimiter that begins what follows the lead. Where none does,
nothing is reported, run or sent. A place in the list is ever taken exactly if no delimiter before it
begins the one there, and a tree that lacks dead delimiters strips and answers every message in the
same way. -/
theorem delimiter_selection (dispatcher : Dispatcher Action) :
    (∀ content delimiter rest,
      dispatcher.tree.stripCommand? content = some (delimiter, rest) ↔
        ∃ before after, dispatcher.tree.settings.delimiters = before ++ delimiter :: after ∧
          content = dispatcher.tree.settings.lead.toList ++ (delimiter.toList ++ rest) ∧
          ¬SomeBegins before (delimiter.toList ++ rest)) ∧
    (∀ content, dispatcher.tree.stripCommand? content = none ↔
      ∀ delimiter ∈ dispatcher.tree.settings.delimiters, ∀ rest,
        content ≠ dispatcher.tree.settings.lead.toList ++ (delimiter.toList ++ rest)) ∧
    (∀ event, dispatcher.tree.stripCommand? event.content.toList = none →
      dispatcher.handle event = ⟨[], none, .ok []⟩) ∧
    (∀ before delimiter after,
      dispatcher.tree.settings.delimiters = before ++ delimiter :: after →
        ((∃ content rest, dispatcher.tree.stripCommand? content = some (delimiter, rest) ∧
            delimiter ∉ before) ↔
          ¬SomeBegins before delimiter.toList)) ∧
    ∀ other : CommandTree Action, other.LacksDead dispatcher.tree →
      (∀ content, other.stripCommand? content = dispatcher.tree.stripCommand? content) ∧
      ∀ event, { dispatcher with tree := other }.resolve event = dispatcher.resolve event := by
  refine ⟨?_, ?_, ?_, ?_, ?_⟩
  · intro content delimiter rest
    exact CommandTree.stripCommand?_eq_some_iff
  · intro content
    exact CommandTree.stripCommand?_eq_none_iff
  · intro event unmatched
    simp [handle, resolve, unmatched]
  · intro before delimiter after splitEq
    exact CommandTree.taken_iff splitEq
  · intro other lacks
    refine ⟨lacks.stripCommand?_eq, ?_⟩
    intro event
    simp only [resolve, lacks.stripCommand?_eq, CommandTree.resolve_congr lacks.same_nodes]

/-- The root of a calculator with two dead delimiters. One of them begins with the other one. -/
def clutteredRoot : CommandTree Unit :=
  ⟨⟨"!", ["/", "//", "::", "///"]⟩,
    #[.ofRoot { lead := "!", delimiters := ["/", "//", "::", "///"] }]⟩

theorem calculatorRoot_lacksDead : CommandTree.calculatorRoot.LacksDead clutteredRoot where
  same_nodes := rfl
  same_lead := rfl
  thinned := .keep (.drop (by decide) (.keep (.drop (by decide) .nil)))

/-- The calculator with two dead delimiters. -/
def clutteredCalculator : Dispatcher Unit :=
  { calculator with tree := clutteredRoot.build CommandTree.calculatorSteps }

/-- A calculator takes its short delimiter where a longer one would do, and answers every message as
it does without the longer ones. -/
theorem delimiter_selection_cluttered :
    clutteredCalculator.tree.stripCommand? "!///c".toList = some ("/", "//c".toList) ∧
    clutteredCalculator.tree.stripCommand? "!.c".toList = none ∧
    clutteredCalculator.handle ⟨"!.c", .privateText, "channel", "user"⟩ = ⟨[], none, .ok []⟩ ∧
    (∃ content rest, clutteredCalculator.tree.stripCommand? content = some ("::", rest)) ∧
    (¬∃ content rest, clutteredCalculator.tree.stripCommand? content = some ("///", rest) ∧
      "///" ∉ ["/", "//", "::"]) ∧
    CommandTree.calculator.LacksDead clutteredCalculator.tree ∧
    ∀ event, calculator.resolve event = clutteredCalculator.resolve event := by
  have lacks : CommandTree.calculator.LacksDead clutteredCalculator.tree :=
    calculatorRoot_lacksDead.build CommandTree.calculatorSteps
  rcases delimiter_selection clutteredCalculator with
    ⟨selected, _, unanswered, taken, thinned⟩
  have foreign : clutteredCalculator.tree.stripCommand? "!.c".toList = none := by decide
  refine ⟨?_, foreign, unanswered _ foreign, ?_, ?_, lacks, (thinned _ lacks).2⟩
  · exact (selected _ _ _).mpr ⟨[], ["//", "::", "///"], rfl, by decide, by decide⟩
  · rcases (taken ["/", "//"] "::" ["///"] rfl).mpr (by decide) with ⟨content, rest, stripped, _⟩
    exact ⟨content, rest, stripped⟩
  · exact mt (taken ["/", "//", "::"] "///" [] rfl).mp (by decide)

end Dispatcher

end Switchboard
