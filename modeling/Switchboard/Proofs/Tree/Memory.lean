import Switchboard.Proofs.Tree.Coverage
import Switchboard.Proofs.Tree.Extension
import Switchboard.Tree.Cache

/-!
# Memory of usage strings

A tree with a memory may be added to after it has been asked for usage strings, and the memory is
not looked through when this happens. It never gets stale all the same: a tree that was added to
extends the one before, and when a handler is replaced, its usages are forgotten.
-/

namespace Switchboard

variable {Action : Type}

/-- Everything in a memory is true. -/
def Remembers {Key Value : Type} (memory : List (Key × Value)) (truth : Key → Option Value) :
    Prop :=
  ∀ entry ∈ memory, truth entry.1 = some entry.2

namespace Remembers

variable {Key Value : Type} {memory : List (Key × Value)}
  {truth : Key → Option Value} {key : Key} {value : Value}

theorem of_lookup [BEq Key] [LawfulBEq Key] (faithful : Remembers memory truth)
    (known : memory.lookup key = some value) : truth key = some value :=
  faithful (key, value) (mem_of_lookup known)

theorem cons (faithful : Remembers memory truth) (holds : truth key = some value) :
    Remembers ((key, value) :: memory) truth := by
  intro entry entryMem
  rcases List.mem_cons.mp entryMem with rfl | old
  · exact holds
  · exact faithful entry old

/-- What is still true is still remembered rightly. -/
theorem filter (faithful : Remembers memory truth) {other : Key → Option Value}
    {stays : Key × Value → Bool}
    (still : ∀ entry : Key × Value, stays entry = true → truth entry.1 = some entry.2 →
      other entry.1 = some entry.2) :
    Remembers (memory.filter stays) other := by
  intro entry entryMem
  rcases List.mem_filter.mp entryMem with ⟨old, stays⟩
  exact still entry stays (faithful entry old)

end Remembers

namespace CachedTree

/-- A tree that could be built, with a memory in which every usage is what it is without one. -/
structure Faithful (cached : CachedTree Action) : Prop where
  reachable : cached.tree.Reachable
  node_usage : Remembers cached.nodeUsages cached.tree.usageAt?
  node_usages : Remembers cached.allNodeUsages cached.tree.usagesAt?
  handler_usage : Remembers cached.handlerUsages cached.tree.usageFor?
  handler_usages : Remembers cached.allHandlerUsages cached.tree.usagesFor?

/-- A question gets the answer of a tree, whatever is remembered of this tree, and leaves a
memory of it. -/
def Answers {α : Type} (tree : CommandTree Action) (question : StateM (CachedTree Action) α)
    (answer : α) : Prop :=
  ∀ cached : CachedTree Action, cached.Faithful → cached.tree = tree →
    (question.run cached).1 = answer ∧ (question.run cached).2.Faithful ∧
      (question.run cached).2.tree = tree

variable {tree : CommandTree Action} {α β : Type}

theorem answers_pure (answer : α) :
    Answers tree (pure answer) answer :=
  fun _ faithful treeEq => ⟨rfl, faithful, treeEq⟩

theorem Answers.bind {question : StateM (CachedTree Action) α}
    {further : α → StateM (CachedTree Action) β} {answer : α} {final : β}
    (first : Answers tree question answer) (second : Answers tree (further answer) final) :
    Answers tree (question >>= further) final := by
  intro cached faithful treeEq
  rcases first cached faithful treeEq with ⟨answerEq, still, stillEq⟩
  have answered := second _ still stillEq
  rw [← answerEq] at answered
  exact answered

/-- What is said of every memory that there may be is said of the present one. -/
theorem answers_get {further : CachedTree Action → StateM (CachedTree Action) α} {answer : α}
    (answered : ∀ cached : CachedTree Action, cached.Faithful → cached.tree = tree →
      Answers tree (further cached) answer) :
    Answers tree (get >>= further) answer :=
  fun cached faithful treeEq => answered cached faithful treeEq cached faithful treeEq

theorem answers_set {cached : CachedTree Action} (faithful : cached.Faithful)
    (treeEq : cached.tree = tree) : Answers tree (set cached) ⟨⟩ :=
  fun _ _ _ => ⟨rfl, faithful, treeEq⟩

theorem answers_modify {change : CachedTree Action → CachedTree Action}
    (kept : ∀ cached : CachedTree Action, cached.Faithful → cached.tree = tree →
      (change cached).Faithful ∧ (change cached).tree = tree) :
    Answers tree (modify change) ⟨⟩ :=
  fun cached faithful treeEq => ⟨rfl, kept cached faithful treeEq⟩

theorem Answers.map {question : StateM (CachedTree Action) α} {answer : α} (change : α → β)
    (answered : Answers tree question answer) :
    Answers tree (change <$> question) (change answer) := by
  rw [map_eq_pure_bind]
  exact answered.bind (answers_pure _)

theorem Answers.discard {question : StateM (CachedTree Action) α} {answer : α}
    (answered : Answers tree question answer) : Answers tree (discard question) () := by
  intro cached faithful treeEq
  exact ⟨rfl, (answered cached faithful treeEq).2⟩

theorem answers_mapM {question : α → StateM (CachedTree Action) β} {answer : α → β}
    {items : List α} (answered : ∀ item ∈ items, Answers tree (question item) (answer item)) :
    Answers tree (items.mapM question) (items.map answer) := by
  induction items with
  | nil => exact answers_pure []
  | cons item rest ih =>
    rw [List.mapM_cons, List.map_cons]
    apply (answered item List.mem_cons_self).bind
    apply (ih fun other otherMem => answered other (List.mem_cons_of_mem _ otherMem)).bind
    exact answers_pure _

/-- A question about what may be absent is not asked if it is. -/
theorem answers_optional {question : α → StateM (CachedTree Action) β} {answer : α → β}
    {item? : Option α}
    (answered : ∀ item, item? = some item → Answers tree (question item) (answer item)) :
    Answers tree (item?.mapM question) (item?.map answer) := by
  cases item? with
  | none => exact answers_pure none
  | some item => exact (answered item rfl).map some

/-- Each of several questions in a row is asked for the memory that it leaves. -/
theorem answers_forIn
    {question : α → PUnit → StateM (CachedTree Action) (ForInStep PUnit)} {items : List α}
    (answered : ∀ item ∈ items, Answers tree (question item ⟨⟩) (.yield ⟨⟩)) :
    Answers tree (forIn items PUnit.unit question) ⟨⟩ := by
  induction items with
  | nil => exact answers_pure _
  | cons item rest ih =>
    rw [List.forIn_cons]
    apply (answered item List.mem_cons_self).bind
    exact ih fun other otherMem => answered other (List.mem_cons_of_mem _ otherMem)

section Questions

variable {id : NodeId} {node : CommandNode Action} {handler : Handler Action}

theorem answers_nodeUsage (nodeEq : tree.node? node.id = some node) :
    Answers tree (nodeUsage node) (tree.nodeUsage node) := by
  have truth : tree.usageAt? node.id = some (tree.nodeUsage node) := by
    rw [CommandTree.usageAt?, nodeEq, Option.map_some]
  apply answers_get
  rintro cached faithful rfl
  split
  · rename_i usage known
    have remembered := faithful.node_usage.of_lookup known
    rw [truth, Option.some.injEq] at remembered
    rw [remembered]
    exact answers_pure usage
  · apply Answers.bind
    · exact answers_set { faithful with node_usage := faithful.node_usage.cons truth } rfl
    · exact answers_pure _

theorem answers_allUsagesOfNode (nodeEq : tree.node? node.id = some node) :
    Answers tree (allUsagesOfNode node) (tree.nodeUsages node) := by
  have truth : tree.usagesAt? node.id = some (tree.nodeUsages node) := by
    rw [CommandTree.usagesAt?, nodeEq, Option.map_some]
  apply answers_get
  rintro cached faithful rfl
  split
  · rename_i usages known
    have remembered := faithful.node_usages.of_lookup known
    rw [truth, Option.some.injEq] at remembered
    rw [remembered]
    exact answers_pure usages
  · apply Answers.bind
    · exact answers_set { faithful with node_usages := faithful.node_usages.cons truth } rfl
    · exact answers_pure _

theorem answers_composeUsage (wellFormed : tree.WellFormed)
    (nodeEq : tree.node? handler.node = some node) :
    Answers tree (composeUsage handler) (tree.handlerUsage handler) := by
  have answerEq : tree.handlerUsage handler =
      tree.withParameters (tree.nodeUsage node) handler := by
    rw [CommandTree.handlerUsage, nodeEq]
  apply answers_get
  rintro cached faithful rfl
  simp only [nodeEq, answerEq]
  have known : cached.tree.node? node.id = some node := by
    rw [wellFormed.id_eq nodeEq]
    exact nodeEq
  exact (answers_nodeUsage known).bind (answers_pure _)

theorem answers_handlerUsage (wellFormed : tree.WellFormed)
    (handlerEq : tree.handler? handler.node handler.arity = some handler) :
    Answers tree (handlerUsage handler) (tree.handlerUsage handler) := by
  have truth : tree.usageFor? (handler.node, handler.arity) = some (tree.handlerUsage handler) := by
    rw [CommandTree.usageFor?, handlerEq, Option.map_some]
  rcases Option.bind_eq_some_iff.mp handlerEq with ⟨node, nodeEq, _⟩
  apply answers_get
  intro cached faithful treeEq
  split
  · rename_i usage known
    have remembered := faithful.handler_usage.of_lookup known
    rw [treeEq, truth, Option.some.injEq] at remembered
    rw [remembered]
    exact answers_pure usage
  · apply (answers_composeUsage wellFormed nodeEq).bind
    refine Answers.bind (answers_modify ?_) (answers_pure _)
    rintro present still rfl
    exact ⟨{ still with handler_usage := still.handler_usage.cons truth }, rfl⟩

theorem answers_composeUsages (wellFormed : tree.WellFormed)
    (nodeEq : tree.node? handler.node = some node) :
    Answers tree (composeUsages handler) (tree.handlerUsages handler) := by
  have answerEq : tree.handlerUsages handler =
      (tree.nodeUsages node).map fun usage => tree.withParameters usage handler := by
    rw [CommandTree.handlerUsages, nodeEq]
  apply answers_get
  rintro cached faithful rfl
  simp only [nodeEq, answerEq]
  have known : cached.tree.node? node.id = some node := by
    rw [wellFormed.id_eq nodeEq]
    exact nodeEq
  exact (answers_allUsagesOfNode known).bind (answers_pure _)

theorem answers_allUsagesOfHandler (wellFormed : tree.WellFormed)
    (handlerEq : tree.handler? handler.node handler.arity = some handler) :
    Answers tree (allUsagesOfHandler handler) (tree.handlerUsages handler) := by
  have truth : tree.usagesFor? (handler.node, handler.arity) =
      some (tree.handlerUsages handler) := by
    rw [CommandTree.usagesFor?, handlerEq, Option.map_some]
  rcases Option.bind_eq_some_iff.mp handlerEq with ⟨node, nodeEq, _⟩
  apply answers_get
  intro cached faithful treeEq
  split
  · rename_i usages known
    have remembered := faithful.handler_usages.of_lookup known
    rw [treeEq, truth, Option.some.injEq] at remembered
    rw [remembered]
    exact answers_pure usages
  · apply (answers_composeUsages wellFormed nodeEq).bind
    refine Answers.bind (answers_modify ?_) (answers_pure _)
    rintro present still rfl
    exact ⟨{ still with handler_usages := still.handler_usages.cons truth }, rfl⟩

theorem answers_listing (wellFormed : tree.WellFormed)
    (handlerEq : tree.handler? handler.node handler.arity = some handler) :
    Answers tree (listing handler) (tree.listing handler) := by
  apply (answers_handlerUsage wellFormed handlerEq).bind
  apply (answers_allUsagesOfHandler wellFormed handlerEq).bind
  exact answers_pure _

theorem answers_listHandlers (wellFormed : tree.WellFormed) (id : NodeId) (recursive : Bool) :
    Answers tree (listHandlers id recursive) (tree.listHandlers id recursive) := by
  apply answers_get
  rintro cached faithful rfl
  rw [CommandTree.listHandlers]
  split
  · rename_i error listedEq
    rw [listedEq]
    exact answers_pure _
  · rename_i handlers listedEq
    rw [listedEq]
    refine Answers.bind (answers_mapM ?_) (answers_pure _)
    intro handler listed
    exact answers_listing wellFormed (wellFormed.registered_of_listed listedEq listed)

theorem answers_warm (wellFormed : tree.WellFormed) : Answers tree warm ⟨⟩ := by
  apply answers_get
  rintro cached faithful rfl
  refine Answers.bind (answers_forIn ?_) (answers_pure _)
  intro node nodeMem
  have nodeEq : cached.tree.node? node.id = some node := by
    rcases List.mem_iff_getElem?.mp nodeMem with ⟨index, atIndex⟩
    have known : cached.tree.node? ⟨index⟩ = some node := by
      rw [Array.getElem?_toList] at atIndex
      exact atIndex
    rw [wellFormed.id_eq known]
    exact known
  apply (answers_nodeUsage nodeEq).discard.bind
  apply (answers_allUsagesOfNode nodeEq).discard.bind
  refine Answers.bind (answers_forIn ?_) (answers_pure _)
  intro handler own
  have handlerEq := wellFormed.registered nodeEq own
  apply (answers_handlerUsage wellFormed handlerEq).discard.bind
  apply (answers_allUsagesOfHandler wellFormed handlerEq).discard.bind
  exact answers_pure _

end Questions

end CachedTree

namespace CachedTree

variable {cached : CachedTree Action} {next : CommandTree Action}

/-- A memory stays faithful when its tree grows, if usages of handlers that have changed are
forgotten. -/
theorem Faithful.grow (faithful : cached.Faithful) (reachable : next.Reachable)
    (kept : next.Extends cached.tree) (stays : NodeId × Nat → Bool)
    (same : ∀ key handler, stays key = true → cached.tree.handler? key.1 key.2 = some handler →
      next.handler? key.1 key.2 = some handler) :
    ({ cached with
        tree := next
        handlerUsages := cached.handlerUsages.filter fun entry => stays entry.1
        allHandlerUsages := cached.allHandlerUsages.filter fun entry => stays entry.1 } :
      CachedTree Action).Faithful := by
  have wellFormed := faithful.reachable.wellFormed
  constructor
  · exact reachable
  · intro entry entryMem
    have truth := faithful.node_usage entry entryMem
    rcases Option.map_eq_some_iff.mp truth with ⟨node, nodeEq, _⟩
    rw [← truth]
    exact (kept.usageAt?_eq wellFormed (by rw [nodeEq]; rfl)).1
  · intro entry entryMem
    have truth := faithful.node_usages entry entryMem
    rcases Option.map_eq_some_iff.mp truth with ⟨node, nodeEq, _⟩
    rw [← truth]
    exact (kept.usageAt?_eq wellFormed (by rw [nodeEq]; rfl)).2
  · apply faithful.handler_usage.filter
    intro entry stays truth
    rcases Option.map_eq_some_iff.mp truth with ⟨handler, handlerEq, _⟩
    rw [← truth]
    exact (kept.usageFor?_eq wellFormed (by rw [handlerEq]; rfl)
      (by rw [same _ _ stays handlerEq, handlerEq])).1
  · apply faithful.handler_usages.filter
    intro entry stays truth
    rcases Option.map_eq_some_iff.mp truth with ⟨handler, handlerEq, _⟩
    rw [← truth]
    exact (kept.usageFor?_eq wellFormed (by rw [handlerEq]; rfl)
      (by rw [same _ _ stays handlerEq, handlerEq])).2

theorem Faithful.addChild (faithful : cached.Faithful) {parent id : NodeId}
    {declaration : NodeDeclaration} {warnings : List TreeWarning}
    (added : cached.tree.addChild parent declaration = .ok (next, id, warnings)) :
    ({ cached with tree := next } : CachedTree Action).Faithful := by
  rcases CommandTree.childAdded_of_addChild added with ⟨parentNode, childAdded, _⟩
  have applied : (BuildStep.addChild parent declaration : BuildStep Action).apply cached.tree =
      .ok (next, warnings) := by
    rw [BuildStep.apply, added]
    rfl
  have grown := faithful.grow (.step faithful.reachable applied) childAdded.extends (fun _ => true)
    fun _ _ _ handlerEq => childAdded.handler?_of_some handlerEq
  simpa only [List.filter_true] using grown

theorem Faithful.register (faithful : cached.Faithful) {id : NodeId}
    {declaration : HandlerDeclaration} {action : Action} {warnings : List TreeWarning}
    (registered : cached.tree.register id declaration action = .ok (next, warnings)) :
    ({ cached with
        tree := next
        handlerUsages := cached.handlerUsages.filter fun entry =>
          entry.1 != (id, declaration.arity)
        allHandlerUsages := cached.allHandlerUsages.filter fun entry =>
          entry.1 != (id, declaration.arity) } : CachedTree Action).Faithful := by
  rcases CommandTree.handlerPlaced_of_register registered with ⟨hostNode, placed, _⟩
  have applied : (BuildStep.register id declaration action).apply cached.tree =
      .ok (next, warnings) := registered
  apply faithful.grow (.step faithful.reachable applied) placed.extends
    (· != (id, declaration.arity))
  rintro ⟨host, arity⟩ handler stays handlerEq
  have other : (host, arity) ≠ (id, declaration.arity) := bne_iff_ne.mp stays
  rw [placed.handler?_of_ne other]
  exact handlerEq

end CachedTree

end Switchboard
