import Mathlib.Data.Nat.Find
import Switchboard.Dispatch.Dispatcher
import Switchboard.Proofs.Token.Enclosure
import Switchboard.Proofs.Tree.Walk

/-!
# Canonical invocations

A handler is invoked by writing the codes on the way to its node and then the arguments, all of
them between quote characters. Such a message has exactly these codes and arguments as its
segments, so what happens to it depends on numbers only: on its way down it meets the ancestors of
the node, and the first of them that has a handler for the number of segments it looks at takes the
message for itself. If there is none, the message reaches its handler.
-/

namespace Switchboard

variable {Action : Type}

namespace CommandNode

/-- How many of the remaining segments a node takes for arguments of its handlers. -/
def claim (node : CommandNode Action) (remaining : Nat) : Nat :=
  min remaining (max (node.maxArity?.getD 0) 1)

/-- Whether a node has a handler for what it takes of the remaining segments. -/
def Intercepts (node : CommandNode Action) (remaining : Nat) : Prop :=
  (node.handler? (node.claim remaining)).isSome

instance (node : CommandNode Action) (remaining : Nat) : Decidable (node.Intercepts remaining) :=
  inferInstanceAs (Decidable (_ = true))

theorem maxArity?_isSome_of_handler? {node : CommandNode Action} {arity : Nat}
    (registered : (node.handler? arity).isSome) : node.maxArity?.isSome := by
  unfold handler? at registered
  unfold maxArity?
  cases entriesEq : node.handlersByArity with
  | nil => simp [entriesEq] at registered
  | cons first others => simp [List.getLast?_cons]

/-- No handler of a node is kept under more than its highest arity. -/
theorem le_maxArity? {node : CommandNode Action} (ascend : KeysAscend node.handlersByArity)
    {arity : Nat} (registered : (node.handler? arity).isSome) : arity ≤ node.maxArity?.getD 0 := by
  rcases Option.isSome_iff_exists.mp (maxArity?_isSome_of_handler? registered) with
    ⟨highest, highestEq⟩
  rcases Option.isSome_iff_exists.mp registered with ⟨handler, handlerEq⟩
  have greatest := highestEq
  rw [maxArity?, getLast?_eq_max? ascend, List.max?_eq_some_iff] at greatest
  rw [highestEq]
  apply greatest.2
  exact List.mem_map.mpr ⟨(arity, handler), mem_of_lookup handlerEq, rfl⟩

/-- A node takes exactly the arguments of each of its handlers. -/
theorem claim_eq_of_handler? {node : CommandNode Action} (ascend : KeysAscend node.handlersByArity)
    {arity : Nat} (registered : (node.handler? arity).isSome) : node.claim arity = arity := by
  have bound := le_maxArity? ascend registered
  unfold claim
  omega

end CommandNode

/-- A code or an argument that can be put between quote characters and is read as it is. -/
structure Plain (text : String) : Prop where
  trimmed : trim text.toList = text.toList
  unquoted : Unquoted text.toList

instance (text : String) : Decidable (Plain text) :=
  decidable_of_iff (trim text.toList = text.toList ∧ Unquoted text.toList)
    ⟨fun plain => ⟨plain.1, plain.2⟩, fun plain => ⟨plain.trimmed, plain.unquoted⟩⟩

theorem tokensOfPieces_eq_self {texts : List String}
    (plain : ∀ text ∈ texts, text ≠ "" ∧ Plain text) :
    tokensOfPieces (texts.map String.toList) = texts.map String.toList := by
  apply tokensOfPieces_of_trimmed
  intro piece pieceMem
  rcases List.mem_map.mp pieceMem with ⟨text, textMem, rfl⟩
  have textPlain := plain text textMem
  exact ⟨by simpa using textPlain.1, textPlain.2.trimmed⟩

namespace CommandTree

/-- The way down from a node to another one through the children that answer to given codes. -/
inductive Descends (tree : CommandTree Action) :
    CommandNode Action → List (CommandNode Action × String) → CommandNode Action → Prop where
  | here {node : CommandNode Action} (nodeEq : tree.node? node.id = some node) :
      Descends tree node [] node
  | through {node next target : CommandNode Action} {code : String}
      {steps : List (CommandNode Action × String)} (nodeEq : tree.node? node.id = some node)
      (childEq : node.childId? code = some next.id) (onward : Descends tree next steps target) :
      Descends tree node ((node, code) :: steps) target

namespace Descends

variable {tree : CommandTree Action} {node target : CommandNode Action}
  {steps : List (CommandNode Action × String)}

theorem target_eq (descends : tree.Descends node steps target) :
    tree.node? target.id = some target := by
  induction descends with
  | here nodeEq => exact nodeEq
  | through _ _ _ ih => exact ih

theorem le_target (wellFormed : tree.WellFormed) (descends : tree.Descends node steps target) :
    node.id.index ≤ target.id.index := by
  induction descends with
  | here _ => exact Nat.le_refl _
  | through nodeEq childEq _ ih =>
    have later := (wellFormed.childId?_leads nodeEq childEq).1
    omega

/-- Every node on the way was created before the node that it leads to. -/
theorem lt_target (wellFormed : tree.WellFormed) (descends : tree.Descends node steps target) :
    ∀ step ∈ steps, step.1.id.index < target.id.index := by
  induction descends with
  | here _ => simp
  | through nodeEq childEq onward ih =>
    intro step stepMem
    rcases List.mem_cons.mp stepMem with rfl | stepMem
    · have later := (wellFormed.childId?_leads nodeEq childEq).1
      have down := onward.le_target wellFormed
      exact Nat.lt_of_lt_of_le later down
    · exact ih step stepMem

/-- The codes on the way are not empty. -/
theorem code_ne_empty (wellFormed : tree.WellFormed) (descends : tree.Descends node steps target) :
    ∀ step ∈ steps, step.2 ≠ "" := by
  induction descends with
  | here _ => simp
  | through nodeEq childEq _ ih =>
    intro step stepMem
    rcases List.mem_cons.mp stepMem with rfl | stepMem
    · rintro rfl
      simp [wellFormed.childId?_empty nodeEq] at childEq
    · exact ih step stepMem

/-- A way down passes through every node on it. -/
theorem take (descends : tree.Descends node steps target) {position : Nat}
    (inside : position < steps.length) :
    tree.Descends node (steps.take position) steps[position].1 := by
  induction descends generalizing position with
  | here _ => simp at inside
  | through nodeEq childEq onward ih =>
    cases position with
    | zero => exact .here nodeEq
    | succ position => exact .through nodeEq childEq (ih (by simpa using inside))

end Descends

section Step

variable {tree : CommandTree Action} {id : NodeId} {node : CommandNode Action} {texts : List String}

/-- What a node with handlers reads from texts that stand for themselves. -/
theorem tokens_eq_take (hasHandler : node.maxArity?.isSome)
    (plain : ∀ text ∈ texts, text ≠ "" ∧ Plain text) :
    tokensOfPieces (boundedBy node.maxArity? (texts.map String.toList)) =
      (texts.take (node.claim texts.length)).map String.toList := by
  rcases Option.isSome_iff_exists.mp hasHandler with ⟨highest, highestEq⟩
  have claimed : boundedBy node.maxArity? (texts.map String.toList) =
      (texts.take (node.claim texts.length)).map String.toList := by
    rw [highestEq, boundedBy, CommandNode.claim, highestEq, Option.getD_some, ← List.map_take]
    congr 1
    rw [List.take_eq_take_iff]
    omega
  rw [claimed]
  apply tokensOfPieces_eq_self
  intro text textMem
  exact plain text (List.mem_of_mem_take textMem)

/-- The handler that a node finds for texts is the one for the number of texts that it claims. -/
theorem handler?_tokens (plain : ∀ text ∈ texts, text ≠ "" ∧ Plain text) :
    node.handler? (tokensOfPieces (boundedBy node.maxArity? (texts.map String.toList))).length =
      node.handler? (node.claim texts.length) := by
  by_cases hasHandler : node.maxArity?.isSome
  · rw [tokens_eq_take hasHandler plain]
    simp [CommandNode.claim]
  · have nothing : ∀ arity, node.handler? arity = none := by
      intro arity
      by_contra found
      have registered := Option.isSome_iff_ne_none.mpr found
      exact hasHandler (CommandNode.maxArity?_isSome_of_handler? registered)
    rw [nothing, nothing]

/-- A node that intercepts texts answers with those that it claims. -/
theorem walk_of_intercepts {check : ScopeCheck} {channelKind : ChannelKind}
    (allowsAll : ∀ scope, check scope channelKind = true) (nodeEq : tree.node? id = some node)
    (plain : ∀ text ∈ texts, text ≠ "" ∧ Plain text) (intercepts : node.Intercepts texts.length) :
    tree.walk check channelKind id (texts.map String.toList) =
      .matched id (texts.take (node.claim texts.length)) := by
  rcases Option.isSome_iff_exists.mp intercepts with ⟨handler, handlerEq⟩
  have hasHandler := CommandNode.maxArity?_isSome_of_handler? intercepts
  rw [walk, nodeEq]
  simp only [handler?_tokens plain, handlerEq, allowsAll, if_true]
  rw [tokens_eq_take hasHandler plain, List.map_map]
  congr 1
  rw [List.map_congr_left (g := fun text => text), List.map_id']
  intro text _
  exact String.ofList_toList

/-- A node that does not intercept texts leaves them to the child that the first one names. -/
theorem walk_of_passes (check : ScopeCheck) (channelKind : ChannelKind) {code : String}
    {child : NodeId} (nodeEq : tree.node? id = some node)
    (childEq : node.childId? code = some child)
    (plain : ∀ text ∈ code :: texts, text ≠ "" ∧ Plain text)
    (passes : ¬node.Intercepts (texts.length + 1)) :
    tree.walk check channelKind id ((code :: texts).map String.toList) =
      tree.walk check channelKind child (texts.map String.toList) := by
  have unclaimed : node.handler? (node.claim (code :: texts).length) = none := by
    simpa [CommandNode.Intercepts] using passes
  have codePlain := (plain code (by simp)).2
  rw [walk, nodeEq]
  simp only [handler?_tokens plain, unclaimed]
  simp [codePlain.trimmed, childEq]

end Step

/-- Codes that no node on the way intercepts lead to the end of the way, where what follows them is
left. -/
theorem walk_descends {tree : CommandTree Action} {check : ScopeCheck} {channelKind : ChannelKind}
    {node target : CommandNode Action} {steps : List (CommandNode Action × String)}
    {rest : List String} (descends : tree.Descends node steps target)
    (plain : ∀ text ∈ steps.map Prod.snd ++ rest, text ≠ "" ∧ Plain text)
    (passes : ∀ position (inside : position < steps.length),
      ¬steps[position].1.Intercepts (steps.length - position + rest.length)) :
    tree.walk check channelKind node.id ((steps.map Prod.snd ++ rest).map String.toList) =
      tree.walk check channelKind target.id (rest.map String.toList) := by
  induction descends with
  | here _ => rfl
  | @through node next target code steps nodeEq childEq onward ih =>
    have here : ¬node.Intercepts ((steps.map Prod.snd ++ rest).length + 1) := by
      have first := passes 0 (by simp)
      simpa [Nat.add_right_comm] using first
    have onto := walk_of_passes check channelKind nodeEq childEq plain here
    refine onto.trans (ih ?_ ?_)
    · intro text textMem
      exact plain text (List.mem_cons_of_mem _ textMem)
    · intro position inside
      have later := passes (position + 1) (by simpa using inside)
      simpa using later

/-- Without an interception, what follows the codes is answered at the end of the way. -/
theorem walk_reaches {tree : CommandTree Action} (wellFormed : tree.WellFormed)
    {check : ScopeCheck} {channelKind : ChannelKind}
    (allowsAll : ∀ scope, check scope channelKind = true) {node target : CommandNode Action}
    {steps : List (CommandNode Action × String)} {arguments : List String}
    (descends : tree.Descends node steps target)
    (plain : ∀ text ∈ steps.map Prod.snd ++ arguments, text ≠ "" ∧ Plain text)
    (registered : (target.handler? arguments.length).isSome)
    (passes : ∀ position (inside : position < steps.length),
      ¬steps[position].1.Intercepts (steps.length - position + arguments.length)) :
    tree.walk check channelKind node.id ((steps.map Prod.snd ++ arguments).map String.toList) =
      .matched target.id arguments := by
  have ascend := wellFormed.keys_ascend descends.target_eq
  have claimed := CommandNode.claim_eq_of_handler? ascend registered
  have intercepts : target.Intercepts arguments.length := by
    rw [CommandNode.Intercepts, claimed]
    exact registered
  have argumentsPlain : ∀ argument ∈ arguments, argument ≠ "" ∧ Plain argument := by
    intro argument argumentMem
    exact plain argument (List.mem_append_right _ argumentMem)
  rw [walk_descends descends plain passes,
    walk_of_intercepts allowsAll descends.target_eq argumentsPlain intercepts, claimed,
    List.take_length]

/-- The first interception on the way decides the answer. -/
theorem walk_intercepted {tree : CommandTree Action} {check : ScopeCheck}
    {channelKind : ChannelKind} (allowsAll : ∀ scope, check scope channelKind = true)
    {node target : CommandNode Action} {steps : List (CommandNode Action × String)}
    {rest : List String} (descends : tree.Descends node steps target)
    (plain : ∀ text ∈ steps.map Prod.snd ++ rest, text ≠ "" ∧ Plain text) {position : Nat}
    (inside : position < steps.length)
    (intercepts : steps[position].1.Intercepts (steps.length - position + rest.length))
    (passes : ∀ earlier (before : earlier < position),
      ¬steps[earlier].1.Intercepts (steps.length - earlier + rest.length)) :
    tree.walk check channelKind node.id ((steps.map Prod.snd ++ rest).map String.toList) =
      .matched steps[position].1.id
        (((steps.map Prod.snd ++ rest).drop position).take
          (steps[position].1.claim (steps.length - position + rest.length))) := by
  have reached := descends.take inside
  have leftLength : ((steps.map Prod.snd ++ rest).drop position).length =
      steps.length - position + rest.length := by
    simp
    omega
  have parted : steps.map Prod.snd ++ rest =
      (steps.take position).map Prod.snd ++ (steps.map Prod.snd ++ rest).drop position := by
    rw [List.drop_append_of_le_length (by simpa using Nat.le_of_lt inside), ← List.append_assoc,
      List.map_take, List.take_append_drop]
  have onto : tree.walk check channelKind node.id ((steps.map Prod.snd ++ rest).map String.toList) =
      tree.walk check channelKind steps[position].1.id
        (((steps.map Prod.snd ++ rest).drop position).map String.toList) := by
    rw [parted] at plain
    conv_lhs => rw [parted]
    apply walk_descends reached plain
    intro earlier before
    have early : earlier < position := by
      simp at before
      omega
    have unclaimed := passes earlier early
    have count : (steps.take position).length - earlier +
        ((steps.map Prod.snd ++ rest).drop position).length =
          steps.length - earlier + rest.length := by
      rw [leftLength, List.length_take]
      omega
    rw [count, List.getElem_take]
    exact unclaimed
  have leftPlain : ∀ text ∈ (steps.map Prod.snd ++ rest).drop position,
      text ≠ "" ∧ Plain text := by
    intro text textMem
    exact plain text (List.mem_of_mem_drop textMem)
  rw [← leftLength] at intercepts ⊢
  rw [onto, walk_of_intercepts allowsAll reached.target_eq leftPlain intercepts]

/-- The message that writes texts behind the lead of a tree, with its main delimiter between them
and each of them between copies of a quote character. -/
def invocation (tree : CommandTree Action) (quotes : List Char) (texts : List String) : String :=
  tree.settings.lead ++ tree.settings.mainDelimiter ++
    String.ofList
      (joinEnclosed tree.settings.mainDelimiter.toList quotes (texts.map String.toList))

theorem WellFormed.delimiters_eq {tree : CommandTree Action} (wellFormed : tree.WellFormed) :
    tree.settings.mainDelimiter ≠ "" ∧
      ∃ others, tree.settings.delimiters = tree.settings.mainDelimiter :: others := by
  have sound := wellFormed.settings_sound
  unfold TreeSettings.fault? at sound
  unfold TreeSettings.mainDelimiter
  cases delimitersEq : tree.settings.delimiters with
  | nil =>
    by_cases leadEq : tree.settings.lead = "" <;> simp [delimitersEq, leadEq] at sound
  | cons first others =>
    refine ⟨?_, others, rfl⟩
    rintro rfl
    by_cases leadEq : tree.settings.lead = "" <;> simp [delimitersEq, leadEq] at sound

/-- What follows the lead and the main delimiter is left of a message. -/
theorem WellFormed.stripCommand?_main {tree : CommandTree Action} (wellFormed : tree.WellFormed)
    (rest : List Char) :
    tree.stripCommand? (tree.settings.lead ++ tree.settings.mainDelimiter ++
        String.ofList rest).toList = some (tree.settings.mainDelimiter, rest) := by
  rcases wellFormed.delimiters_eq with ⟨_, others, delimitersEq⟩
  have led : dropStart? tree.settings.lead.toList (tree.settings.lead ++
      tree.settings.mainDelimiter ++ String.ofList rest).toList =
        some (tree.settings.mainDelimiter.toList ++ rest) := by
    simp [dropStart?_eq_some_iff]
  have delimited : dropStart? tree.settings.mainDelimiter.toList
      (tree.settings.mainDelimiter.toList ++ rest) = some rest := by
    simp [dropStart?_eq_some_iff]
  simp only [stripCommand?, led, Option.bind_eq_bind, Option.bind_some]
  rw [delimitersEq, List.findSome?_cons, delimited]
  rfl

end CommandTree

namespace Dispatcher

/-- A dispatcher answers a message of plain texts as a walk over these texts does. -/
theorem resolve_invocation_eq_walk {dispatcher : Dispatcher Action}
    (reachable : dispatcher.tree.Reachable) {quotes : List Char} {texts : List String}
    (encloses : ∀ quote ∈ quotes,
      Encloses dispatcher.tree.settings.mainDelimiter.toList quote)
    (enough : quotes.length = texts.length) (plain : ∀ text ∈ texts, text ≠ "" ∧ Plain text)
    (event : TextEvent) (contentEq : event.content = dispatcher.tree.invocation quotes texts) :
    dispatcher.resolve event =
      dispatcher.tree.walk dispatcher.check event.channelKind .root (texts.map String.toList) := by
  have wellFormed := reachable.wellFormed
  have filled := wellFormed.delimiters_eq.1
  rw [Dispatcher.resolve, contentEq, CommandTree.invocation, wellFormed.stripCommand?_main]
  simp only
  rw [wellFormed.resolve_segments, segments_joinEnclosed]
  · simpa using filled
  · exact encloses
  · simpa using enough
  · intro piece pieceMem
    rcases List.mem_map.mp pieceMem with ⟨text, textMem, rfl⟩
    exact ⟨by simpa using (plain text textMem).1, (plain text textMem).2.unquoted⟩

/-- A canonical invocation reaches its handler exactly when no ancestor of the handler's node
intercepts it. Otherwise the first ancestor that intercepts it answers with the segments that it
claims. -/
theorem resolve_invocation {dispatcher : Dispatcher Action}
    (reachable : dispatcher.tree.Reachable)
    (allowsAll : ∀ scope channelKind, dispatcher.check scope channelKind = true)
    {root target : CommandNode Action} (rootEq : dispatcher.tree.node? .root = some root)
    {steps : List (CommandNode Action × String)}
    (descends : dispatcher.tree.Descends root steps target)
    (codesPlain : ∀ step ∈ steps, Plain step.2) {arguments : List String}
    (registered : (target.handler? arguments.length).isSome)
    (argumentsPlain : ∀ argument ∈ arguments, argument ≠ "" ∧ Plain argument)
    {quotes : List Char}
    (encloses : ∀ quote ∈ quotes,
      Encloses dispatcher.tree.settings.mainDelimiter.toList quote)
    (enough : quotes.length = steps.length + arguments.length) (event : TextEvent)
    (contentEq : event.content =
      dispatcher.tree.invocation quotes (steps.map Prod.snd ++ arguments)) :
    (dispatcher.resolve event = .matched target.id arguments ↔
      ∀ position (inside : position < steps.length),
        ¬steps[position].1.Intercepts (steps.length - position + arguments.length)) ∧
    ∀ position (inside : position < steps.length),
      steps[position].1.Intercepts (steps.length - position + arguments.length) →
      (∀ earlier (before : earlier < position),
        ¬steps[earlier].1.Intercepts (steps.length - earlier + arguments.length)) →
      dispatcher.resolve event = .matched steps[position].1.id
        (((steps.map Prod.snd ++ arguments).drop position).take
          (steps[position].1.claim (steps.length - position + arguments.length))) := by
  have wellFormed := reachable.wellFormed
  have plain : ∀ text ∈ steps.map Prod.snd ++ arguments, text ≠ "" ∧ Plain text := by
    intro text textMem
    rcases List.mem_append.mp textMem with codeMem | argumentMem
    · rcases List.mem_map.mp codeMem with ⟨step, stepMem, rfl⟩
      exact ⟨descends.code_ne_empty wellFormed step stepMem, codesPlain step stepMem⟩
    · exact argumentsPlain text argumentMem
  have walks := resolve_invocation_eq_walk reachable encloses (by simpa using enough) plain event
    contentEq
  rw [← wellFormed.id_eq rootEq] at walks
  refine ⟨⟨?_, ?_⟩, ?_⟩
  · intro answer position inside intercepts
    -- The first ancestor that intercepts the message is older than the node of the answer.
    classical
    have someIntercepts : ∃ position, ∃ inside : position < steps.length,
        steps[position].1.Intercepts (steps.length - position + arguments.length) :=
      ⟨position, inside, intercepts⟩
    rcases Nat.find_spec someIntercepts with ⟨firstInside, firstIntercepts⟩
    have taken := CommandTree.walk_intercepted (allowsAll · event.channelKind) descends plain
      firstInside firstIntercepts (by
        intro earlier before unclaimed
        exact Nat.find_min someIntercepts before ⟨by omega, unclaimed⟩)
    rw [← walks, answer] at taken
    have sameNode := (Resolution.matched.inj taken).1
    have older := descends.lt_target wellFormed _ (List.getElem_mem firstInside)
    rw [sameNode] at older
    exact Nat.lt_irrefl _ older
  · intro passes
    rw [walks]
    exact CommandTree.walk_reaches wellFormed (allowsAll · event.channelKind) descends plain
      registered passes
  · intro position inside intercepts passes
    rw [walks]
    exact CommandTree.walk_intercepted (allowsAll · event.channelKind) descends plain inside
      intercepts passes

/-- A dispatcher for the calculator whose handlers have nothing to say. -/
def calculator : Dispatcher Unit :=
  ⟨.calculator, .allowAll, .verbatim, fun _ _ _ => .nothing⟩

/-- The calculator takes for itself what is meant for the command below it: it has a handler for two
arguments, and the code of that command is one of them. -/
theorem resolve_invocation_calculator :
    ∃ root calculation sub,
      calculator.tree.node? .root = some root ∧
      calculator.tree.Descends root [(root, "c"), (calculation, "SUB")] sub ∧
      (sub.handler? 1).isSome ∧ ¬root.Intercepts 3 ∧ calculation.Intercepts 2 ∧
      calculator.resolve ⟨"!/'c'/\x22SUB\x22/'x/y'", .privateText, "channel", "user"⟩ =
        .matched calculation.id ["SUB", "x/y"] := by
  let root := (calculator.tree.node? ⟨0⟩).get (by decide)
  let calculation := (calculator.tree.node? ⟨1⟩).get (by decide)
  let sub := (calculator.tree.node? ⟨2⟩).get (by decide)
  have descends : calculator.tree.Descends root [(root, "c"), (calculation, "SUB")] sub :=
    .through rfl (by decide) (.through rfl (by decide) (.here rfl))
  have codesPlain : ∀ step ∈ [(root, "c"), (calculation, "SUB")], Plain step.2 := by decide
  have argumentsPlain : ∀ argument ∈ ["x/y"], argument ≠ "" ∧ Plain argument := by decide
  have encloses : ∀ quote ∈ ['\x27', '\x22', '\x27'],
      Encloses calculator.tree.settings.mainDelimiter.toList quote := by
    intro quote quoteMem
    simp only [List.mem_cons, List.not_mem_nil, or_false] at quoteMem
    rcases quoteMem with rfl | rfl | rfl <;> decide
  have invoked := resolve_invocation CommandTree.calculator_reachable (fun _ _ => rfl) rfl descends
    codesPlain (by decide) argumentsPlain encloses rfl
    ⟨"!/'c'/\x22SUB\x22/'x/y'", .privateText, "channel", "user"⟩ (by decide)
  exact ⟨root, calculation, sub, rfl, descends, by decide, by decide, by decide,
    invoked.2 1 (by decide) (by decide) (by decide)⟩

end Dispatcher

end Switchboard
