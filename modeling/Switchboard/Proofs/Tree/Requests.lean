import Switchboard.Proofs.Tree.Memory

/-!
# Requests to a tree with a memory

A tree is added to and asked for usages in any order. With a memory it answers every request as it
would without one.
-/

namespace Switchboard

variable {Action : Type}

/-- What a tree may be asked for, assembly and questions alike. -/
inductive TreeRequest (Action : Type) where
  | addChild (parent : NodeId) (declaration : NodeDeclaration)
  | register (node : NodeId) (declaration : HandlerDeclaration) (action : Action)
  | nodeUsage (node : NodeId)
  | allUsagesOfNode (node : NodeId)
  | handlerUsage (node : NodeId) (arity : Nat)
  | allUsagesOfHandler (node : NodeId) (arity : Nat)
  | listHandlers (node : NodeId) (recursive : Bool)
  | warm

/-- What a tree answers to a request. -/
inductive TreeAnswer where
  | added (result : Except TreeError (NodeId × List TreeWarning))
  | registered (result : Except TreeError (List TreeWarning))
  | usage (usage? : Option String)
  | usages (usages? : Option (List String))
  | page (page : Except TreeError (List HandlerListing))
  | warmed

/-- Whether a request only computes usages ahead. -/
def TreeRequest.isWarm : TreeRequest Action → Bool
  | warm => true
  | _ => false

/-- Whether an answer is to a request that only computes usages ahead. -/
def TreeAnswer.isWarmed : TreeAnswer → Bool
  | warmed => true
  | _ => false

namespace CommandTree

/-- The answer of a tree without a memory, and the tree after it. -/
def serve (tree : CommandTree Action) : TreeRequest Action → TreeAnswer × CommandTree Action
  | .addChild parent declaration =>
    match tree.addChild parent declaration with
    | .ok (next, id, warnings) => (.added (.ok (id, warnings)), next)
    | .error error => (.added (.error error), tree)
  | .register node declaration action =>
    match tree.register node declaration action with
    | .ok (next, warnings) => (.registered (.ok warnings), next)
    | .error error => (.registered (.error error), tree)
  | .nodeUsage node => (.usage (tree.usageAt? node), tree)
  | .allUsagesOfNode node => (.usages (tree.usagesAt? node), tree)
  | .handlerUsage node arity => (.usage (tree.usageFor? (node, arity)), tree)
  | .allUsagesOfHandler node arity => (.usages (tree.usagesFor? (node, arity)), tree)
  | .listHandlers node recursive => (.page (tree.listHandlers node recursive), tree)
  | .warm => (.warmed, tree)

/-- The answers of a tree without a memory, and the tree after them. -/
def serveAll (tree : CommandTree Action) :
    List (TreeRequest Action) → List TreeAnswer × CommandTree Action
  | [] => ([], tree)
  | request :: rest =>
    let (answers, last) := (tree.serve request).2.serveAll rest
    ((tree.serve request).1 :: answers, last)

end CommandTree

namespace CachedTree

/-- The answer of a tree with a memory, and what it remembers then. -/
def serve (cached : CachedTree Action) : TreeRequest Action → TreeAnswer × CachedTree Action
  | .addChild parent declaration =>
    match cached.addChild parent declaration with
    | .ok (next, id, warnings) => (.added (.ok (id, warnings)), next)
    | .error error => (.added (.error error), cached)
  | .register node declaration action =>
    match cached.register node declaration action with
    | .ok (next, warnings) => (.registered (.ok warnings), next)
    | .error error => (.registered (.error error), cached)
  | .nodeUsage node => (TreeAnswer.usage <$> (cached.tree.node? node).mapM nodeUsage).run cached
  | .allUsagesOfNode node =>
    (TreeAnswer.usages <$> (cached.tree.node? node).mapM allUsagesOfNode).run cached
  | .handlerUsage node arity =>
    (TreeAnswer.usage <$> (cached.tree.handler? node arity).mapM handlerUsage).run cached
  | .allUsagesOfHandler node arity =>
    (TreeAnswer.usages <$> (cached.tree.handler? node arity).mapM allUsagesOfHandler).run cached
  | .listHandlers node recursive => (TreeAnswer.page <$> listHandlers node recursive).run cached
  | .warm => ((fun _ => TreeAnswer.warmed) <$> warm).run cached

/-- The answers of a tree with a memory, and what it remembers then. -/
def serveAll (cached : CachedTree Action) :
    List (TreeRequest Action) → List TreeAnswer × CachedTree Action
  | [] => ([], cached)
  | request :: rest =>
    let (answers, last) := (cached.serve request).2.serveAll rest
    ((cached.serve request).1 :: answers, last)

/-- A request gets the answer that it would get without a memory. -/
theorem Faithful.serve {cached : CachedTree Action} (faithful : cached.Faithful)
    (request : TreeRequest Action) :
    (cached.serve request).1 = (cached.tree.serve request).1 ∧
      (cached.serve request).2.Faithful ∧
      (cached.serve request).2.tree = (cached.tree.serve request).2 := by
  have wellFormed := faithful.reachable.wellFormed
  cases request with
  | addChild parent declaration =>
    rw [CachedTree.serve, CommandTree.serve, CachedTree.addChild]
    cases added : cached.tree.addChild parent declaration with
    | error error => exact ⟨rfl, faithful, rfl⟩
    | ok result => exact ⟨rfl, faithful.addChild added, rfl⟩
  | register node declaration action =>
    rw [CachedTree.serve, CommandTree.serve, CachedTree.register]
    cases registered : cached.tree.register node declaration action with
    | error error => exact ⟨rfl, faithful, rfl⟩
    | ok result => exact ⟨rfl, faithful.register registered, rfl⟩
  | nodeUsage id =>
    apply (answers_optional _).map TreeAnswer.usage cached faithful rfl
    intro node nodeEq
    exact answers_nodeUsage (wellFormed.id_eq nodeEq ▸ nodeEq)
  | allUsagesOfNode id =>
    apply (answers_optional _).map TreeAnswer.usages cached faithful rfl
    intro node nodeEq
    exact answers_allUsagesOfNode (wellFormed.id_eq nodeEq ▸ nodeEq)
  | handlerUsage id arity =>
    apply (answers_optional _).map TreeAnswer.usage cached faithful rfl
    intro handler handlerEq
    exact answers_handlerUsage wellFormed (wellFormed.registered_of_handler? handlerEq)
  | allUsagesOfHandler id arity =>
    apply (answers_optional _).map TreeAnswer.usages cached faithful rfl
    intro handler handlerEq
    exact answers_allUsagesOfHandler wellFormed (wellFormed.registered_of_handler? handlerEq)
  | listHandlers id recursive =>
    exact (answers_listHandlers wellFormed id recursive).map TreeAnswer.page cached faithful rfl
  | warm => exact (answers_warm wellFormed).map (fun _ => TreeAnswer.warmed) cached faithful rfl

theorem Faithful.serveAll {cached : CachedTree Action} (faithful : cached.Faithful)
    (requests : List (TreeRequest Action)) :
    (cached.serveAll requests).1 = (cached.tree.serveAll requests).1 ∧
      (cached.serveAll requests).2.Faithful ∧
      (cached.serveAll requests).2.tree = (cached.tree.serveAll requests).2 := by
  induction requests generalizing cached with
  | nil => exact ⟨rfl, faithful, rfl⟩
  | cons request rest ih =>
    rcases faithful.serve request with ⟨answerEq, still, treeEq⟩
    rcases ih still with ⟨answersEq, last, lastEq⟩
    rw [treeEq] at answersEq lastEq
    refine ⟨?_, last, lastEq⟩
    simp only [CachedTree.serveAll, CommandTree.serveAll, answerEq, answersEq]

end CachedTree

namespace CommandTree

variable {tree : CommandTree Action}

theorem extends_serve (tree : CommandTree Action) (request : TreeRequest Action) :
    (tree.serve request).2.Extends tree := by
  cases request with
  | addChild parent declaration =>
    rw [serve]
    split
    · rename_i added
      rcases childAdded_of_addChild added with ⟨_, childAdded, _⟩
      exact childAdded.extends
    · exact .refl tree
  | register node declaration action =>
    rw [serve]
    split
    · rename_i registered
      rcases handlerPlaced_of_register registered with ⟨_, placed, _⟩
      exact placed.extends
    · exact .refl tree
  | nodeUsage | allUsagesOfNode | handlerUsage | allUsagesOfHandler | listHandlers | warm =>
    exact .refl tree

theorem extends_serveAll (tree : CommandTree Action) (requests : List (TreeRequest Action)) :
    (tree.serveAll requests).2.Extends tree := by
  induction requests generalizing tree with
  | nil => exact .refl tree
  | cons request rest ih => exact (ih (tree.serve request).2).trans (tree.extends_serve request)

theorem serveAll_append (tree : CommandTree Action) (earlier later : List (TreeRequest Action)) :
    (tree.serveAll (earlier ++ later)).2 = ((tree.serveAll earlier).2.serveAll later).2 := by
  induction earlier generalizing tree with
  | nil => rfl
  | cons request rest ih => exact ih (tree.serve request).2

/-- Requests that only compute usages ahead can be left out. -/
theorem serveAll_filter (tree : CommandTree Action) (requests : List (TreeRequest Action)) :
    (tree.serveAll requests).1.filter (!·.isWarmed) =
      (tree.serveAll (requests.filter (!·.isWarm))).1 := by
  induction requests generalizing tree with
  | nil => rfl
  | cons request rest ih =>
    cases request with
    | warm => exact ih tree
    | addChild | register =>
      rw [List.filter_cons_of_pos rfl, serveAll, serveAll, List.filter_cons_of_pos, ih]
      rw [serve]
      split <;> rfl
    | nodeUsage | allUsagesOfNode | handlerUsage | allUsagesOfHandler | listHandlers =>
      exact congrArg _ (ih tree)

end CommandTree

/-- Whatever is done to a tree, and whatever it is asked for in between, it answers as a tree
without a memory does at this point. The usages of a node are the same ever after, and computing
usages ahead changes no other answer. -/
theorem CachedTree.usages_never_stale {declaration : RootDeclaration} {root : CommandTree Action}
    (created : CommandTree.ofRoot declaration = .ok root) (requests : List (TreeRequest Action)) :
    (CachedTree.serveAll { tree := root } requests).1 = (root.serveAll requests).1 ∧
    (∀ earlier later, requests = earlier ++ later → ∀ id node,
      (root.serveAll earlier).2.node? id = some node →
      ∃ now, (root.serveAll requests).2.node? id = some now ∧
        (root.serveAll requests).2.nodeUsage now = (root.serveAll earlier).2.nodeUsage node ∧
        (root.serveAll requests).2.nodeUsages now = (root.serveAll earlier).2.nodeUsages node) ∧
    ∀ others : List (TreeRequest Action),
      others.filter (!·.isWarm) = requests.filter (!·.isWarm) →
      (CachedTree.serveAll { tree := root } others).1.filter (!·.isWarmed) =
        (CachedTree.serveAll { tree := root } requests).1.filter (!·.isWarmed) := by
  have fresh : (CachedTree.mk root [] [] [] []).Faithful := by
    refine ⟨.ofRoot created, ?_, ?_, ?_, ?_⟩ <;> exact fun _ nothing => nomatch nothing
  refine ⟨(fresh.serveAll requests).1, ?_, ?_⟩
  · rintro earlier later rfl id node nodeEq
    rcases fresh.serveAll earlier with ⟨_, present, presentEq⟩
    have wellFormed := present.reachable.wellFormed
    rw [presentEq] at wellFormed
    have kept := (root.serveAll earlier).2.extends_serveAll later
    rw [← CommandTree.serveAll_append] at kept
    rcases kept.place_eq nodeEq with ⟨now, nowEq, _⟩
    exact ⟨now, nowEq, kept.nodeUsage_eq wellFormed nodeEq nowEq⟩
  · intro others same
    rw [(fresh.serveAll others).1, (fresh.serveAll requests).1, CommandTree.serveAll_filter, same,
      CommandTree.serveAll_filter]

/-- A handler is asked for its usage, replaced, and asked for again. -/
theorem CachedTree.usages_never_stale_calculator :
    let requests : List (TreeRequest Unit) :=
      [.addChild .root { codes := ["echo", "e"] },
        .register ⟨1⟩ { parameters := [⟨"text", .text⟩] } (), .handlerUsage ⟨1⟩ 1,
        .register ⟨1⟩ { parameters := [⟨"number", .integer⟩] } (), .handlerUsage ⟨1⟩ 1]
    CommandTree.ofRoot { lead := "!", delimiters := ["/", "::"] } = .ok CommandTree.calculatorRoot ∧
      (CachedTree.serveAll { tree := CommandTree.calculatorRoot } requests).1 =
        [.added (.ok (⟨1⟩, [])), .registered (.ok []), .usage (some "!/echo/(text)"),
          .registered (.ok [.handlerReplaced ⟨1⟩ "echo" 1]), .usage (some "!/echo/(number)")] := by
  intro requests
  refine ⟨CommandTree.calculatorRoot_created, ?_⟩
  rw [(usages_never_stale CommandTree.calculatorRoot_created requests).1]
  rfl

end Switchboard
