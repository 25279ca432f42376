import Switchboard.Dispatch.Stock
import Switchboard.Proofs.Tree.WellFormed

/-!
# Effects of a dispatch

What the dispatch of one message reports, runs and gives back is decided by the answer of the tree
and by the first token that cannot be read. A handler that answers is found again, with as many
parameters as there are tokens, so no token is ever left out of its arguments.
-/

namespace Switchboard

variable {Action : Type}

section Reading

variable (coercion : Coercion) (parameters : List Parameter) (tokens : List String)

/-- The token at a place, read as the kind of the parameter at this place. -/
def readingAt? (place : Nat) : Option (Except CoercionError Value) :=
  parameters[place]?.bind fun parameter =>
    tokens[place]?.map fun token => coercion parameter.kind token

/-- Values are what the tokens are read as, one for each parameter. -/
def ReadAs (values : List Value) : Prop :=
  values.length = parameters.length ∧
    ∀ place (inside : place < values.length),
      readingAt? coercion parameters tokens place = some (.ok values[place])

/-- An error is that of the first token that cannot be read. -/
def FailsFirst (error : CoercionError) : Prop :=
  ∃ place, readingAt? coercion parameters tokens place = some (.error error) ∧
    ∀ earlier < place, ∃ value,
      readingAt? coercion parameters tokens earlier = some (.ok value)

end Reading

section Cons

variable {coercion : Coercion} {parameter : Parameter} {parameters : List Parameter}
  {token : String} {tokens : List String} {value : Value} {values : List Value}
  {error : CoercionError}

@[simp]
theorem readingAt?_zero :
    readingAt? coercion (parameter :: parameters) (token :: tokens) 0 =
      some (coercion parameter.kind token) := by
  simp [readingAt?]

@[simp]
theorem readingAt?_succ (place : Nat) :
    readingAt? coercion (parameter :: parameters) (token :: tokens) (place + 1) =
      readingAt? coercion parameters tokens place := by
  simp [readingAt?]

theorem ReadAs.cons (first : coercion parameter.kind token = .ok value)
    (others : ReadAs coercion parameters tokens values) :
    ReadAs coercion (parameter :: parameters) (token :: tokens) (value :: values) := by
  rcases others with ⟨count, readings⟩
  refine ⟨by simp [count], ?_⟩
  intro place inside
  cases place with
  | zero => rw [readingAt?_zero, first, List.getElem_cons_zero]
  | succ place =>
    rw [readingAt?_succ, readings place (by simpa using inside), List.getElem_cons_succ]

theorem failsFirst_head (first : coercion parameter.kind token = .error error) :
    FailsFirst coercion (parameter :: parameters) (token :: tokens) error := by
  refine ⟨0, by rw [readingAt?_zero, first], ?_⟩
  intro earlier before
  exact absurd before (Nat.not_lt_zero _)

theorem FailsFirst.cons (first : coercion parameter.kind token = .ok value)
    (later : FailsFirst coercion parameters tokens error) :
    FailsFirst coercion (parameter :: parameters) (token :: tokens) error := by
  rcases later with ⟨place, fails, others⟩
  refine ⟨place + 1, by rw [readingAt?_succ, fails], ?_⟩
  intro earlier before
  cases earlier with
  | zero => exact ⟨value, by rw [readingAt?_zero, first]⟩
  | succ earlier =>
    rw [readingAt?_succ]
    exact others earlier (by omega)

theorem coerceAll_cons :
    Dispatcher.coerceAll coercion (parameter :: parameters) (token :: tokens) =
      (coercion parameter.kind token).bind fun value =>
        (Dispatcher.coerceAll coercion parameters tokens).map (value :: ·) := by
  simp only [Dispatcher.coerceAll, List.zip_cons_cons, List.mapM_cons]
  rfl

end Cons

/-- Tokens that are as many as the parameters are either all read, or the first of them that cannot
be read decides. -/
theorem coerceAll_cases (coercion : Coercion) {parameters : List Parameter} {tokens : List String}
    (sameLength : parameters.length = tokens.length) :
    (∃ values, Dispatcher.coerceAll coercion parameters tokens = .ok values ∧
      ReadAs coercion parameters tokens values) ∨
    ∃ error, Dispatcher.coerceAll coercion parameters tokens = .error error ∧
      FailsFirst coercion parameters tokens error := by
  induction parameters generalizing tokens with
  | nil =>
    left
    refine ⟨[], by simp [Dispatcher.coerceAll, pure, Except.pure], rfl, ?_⟩
    intro place inside
    simp at inside
  | cons parameter parameters ih =>
    cases tokens with
    | nil => simp at sameLength
    | cons token tokens =>
      rw [coerceAll_cons]
      cases first : coercion parameter.kind token with
      | error error => exact Or.inr ⟨error, rfl, failsFirst_head first⟩
      | ok value =>
        have sameRest : parameters.length = tokens.length := by simpa using sameLength
        rcases ih sameRest with ⟨values, read, others⟩ | ⟨error, failed, later⟩
        · rw [read]
          exact Or.inl ⟨value :: values, rfl, others.cons first⟩
        · rw [failed]
          exact Or.inr ⟨error, rfl, later.cons first⟩

/-- A node that answers to tokens has a handler for their number, and its scope has been checked. -/
theorem CommandTree.handler?_of_resolve_matched {tree : CommandTree Action} {check : ScopeCheck}
    {channelKind : ChannelKind} {delimiter : List Char} {id node : NodeId} {text : List Char}
    {tokens : List String}
    (answer : tree.resolve check channelKind delimiter id text = .matched node tokens) :
    ∃ handler, tree.handler? node tokens.length = some handler ∧
      check handler.scope channelKind = true := by
  induction lengthEq : text.length using Nat.strongRecOn generalizing id text with
  | _ length ih =>
    rw [resolve] at answer
    cases nodeEq : tree.node? id with
    | none => simp [nodeEq] at answer
    | some commandNode =>
      simp only [nodeEq] at answer
      split at answer
      · rename_i handler handlerEq
        split at answer
        · rename_i admitted
          simp only [Resolution.matched.injEq] at answer
          rcases answer with ⟨rfl, rfl⟩
          refine ⟨handler, ?_, admitted⟩
          simp [handler?, nodeEq, handlerEq]
        · cases answer
      · split at answer
        · cases answer
        · rename_i filled
          split at answer
          · rename_i child childEq
            have shorter := length_splitFirst_lt delimiter filled
            exact ih _ (by omega) answer rfl
          · cases answer

namespace Dispatcher

theorem handler?_of_resolve_matched {dispatcher : Dispatcher Action} {event : TextEvent}
    {node : NodeId} {tokens : List String}
    (answer : dispatcher.resolve event = .matched node tokens) :
    ∃ handler, dispatcher.tree.handler? node tokens.length = some handler := by
  unfold resolve at answer
  split at answer
  · cases answer
  · rcases CommandTree.handler?_of_resolve_matched answer with ⟨handler, found, _⟩
    exact ⟨handler, found⟩

/-- What the dispatch of a message does, for each answer of a tree that assembly can produce. -/
theorem handle_effects {dispatcher : Dispatcher Action} (reachable : dispatcher.tree.Reachable)
    (event : TextEvent) :
    match dispatcher.resolve event with
    | .noMatch => dispatcher.handle event = ⟨[], none, .ok []⟩
    | .outOfScope _ _ response => dispatcher.handle event = ⟨[], none, .ok [response]⟩
    | .matched node tokens =>
      ∃ handler, dispatcher.tree.handler? node tokens.length = some handler ∧
        handler.arity = tokens.length ∧
        (dispatcher.handle event).records =
          [⟨handler.feature, event.channelId, event.userId⟩] ∧
        ((∃ values, ReadAs dispatcher.coercion handler.parameters tokens values ∧
            (dispatcher.handle event).call = some (handler, ⟨values⟩) ∧
            (dispatcher.handle event).result =
              (dispatcher.perform handler.action ⟨event, dispatcher.tree, node⟩
                ⟨values⟩).responses) ∨
          ∃ error, FailsFirst dispatcher.coercion handler.parameters tokens error ∧
            (dispatcher.handle event).call = none ∧
            (dispatcher.handle event).result = .error (.coercion error)) := by
  cases answer : dispatcher.resolve event with
  | noMatch => simp [handle, answer]
  | outOfScope node arity response => simp [handle, answer]
  | matched node tokens =>
    rcases handler?_of_resolve_matched answer with ⟨handler, handlerEq⟩
    have fits : handler.arity = tokens.length := reachable.wellFormed.arity_eq handlerEq
    have dispatched : dispatcher.handle event =
        dispatcher.callHandler event handler node tokens := by
      simp [handle, answer, handlerEq]
    simp only [dispatched]
    refine ⟨handler, handlerEq, fits, ?_⟩
    rcases coerceAll_cases dispatcher.coercion fits with
      ⟨values, read, readAs⟩ | ⟨error, failed, first⟩
    · refine ⟨by simp [callHandler, read], Or.inl ⟨values, readAs, ?_, ?_⟩⟩
      · simp [callHandler, read]
      · simp [callHandler, read]
    · refine ⟨by simp [callHandler, failed], Or.inr ⟨error, first, ?_, ?_⟩⟩
      · simp [callHandler, failed]
      · simp [callHandler, failed]

/-- A dispatcher whose command takes an amount and a note and shows them in turn. -/
def payments : Dispatcher StockAction where
  tree := CommandTree.build ⟨⟨"!", ["/"]⟩, #[.ofRoot { lead := "!", delimiters := ["/"] }]⟩
    [.addChild .root { codes := ["pay"] },
      .register ⟨1⟩ { parameters := [⟨"amount", .integer⟩, ⟨"note", .text⟩] }
        (.read [(.text, 1), (.integer, 0)])]
  check := .allowAll
  coercion := .standard
  perform := StockAction.perform

theorem payments_reachable : payments.tree.Reachable := by
  have created : CommandTree.ofRoot { lead := "!", delimiters := ["/"] } =
      .ok (⟨⟨"!", ["/"]⟩, #[.ofRoot { lead := "!", delimiters := ["/"] }]⟩ :
        CommandTree StockAction) := rfl
  exact (CommandTree.Reachable.ofRoot created).build _

/-- A message that pays an amount which is no number. -/
def misspelt : TextEvent :=
  ⟨"!/pay/seven/x", .privateText, "c", "u"⟩

/-- A payment that cannot be read is a use of the command, but the handler does not run. -/
theorem handle_effects_payments :
    payments.tree.Reachable ∧
    ∃ handler error, payments.tree.handler? ⟨1⟩ 2 = some handler ∧ handler.arity = 2 ∧
      (payments.handle misspelt).records = [⟨handler.feature, "c", "u"⟩] ∧
      FailsFirst payments.coercion handler.parameters ["seven", "x"] error ∧
      (payments.handle misspelt).call = none ∧
      (payments.handle misspelt).result = .error (.coercion error) := by
  have answered : payments.resolve misspelt = .matched ⟨1⟩ ["seven", "x"] := by decide +kernel
  have silent : (payments.handle misspelt).call.isNone = true := by decide +kernel
  have effects := handle_effects payments_reachable misspelt
  rw [answered] at effects
  rcases effects with ⟨handler, handlerEq, fits, recorded, called | ⟨error, first, unrun, failed⟩⟩
  · rcases called with ⟨values, _, call, _⟩
    rw [call] at silent
    cases silent
  · exact ⟨payments_reachable, handler, error, handlerEq, fits, recorded, first, unrun, failed⟩

end Dispatcher

end Switchboard
