import Switchboard.Proofs.Dispatch.Effects

/-!
# Typed arguments

A handler that runs has one argument for each of its parameters, read from the token at the same
place as the declared kind. So each argument can be read by the kind of its parameter and by no
other one, and there is nothing to read behind the last of them.

A handler is free in what it reads, and what it reads next may depend on what it has read. As long
as it asks for declared parameters by their kinds, every one of its readings succeeds.
-/

namespace Switchboard

theorem kind_of_readValue {kind : ParameterKind} {raw : String} {value : Value}
    (read : readValue kind raw = .ok value) : value.kind = kind := by
  cases kind with
  | text =>
    cases read
    rfl
  | integer =>
    simp only [readValue] at read
    split at read <;> cases read
    rfl
  | float =>
    simp only [readValue] at read
    cases floatEq : readFinite raw <;> rw [floatEq] at read <;> cases read
    rfl
  | identifier =>
    simp only [readValue] at read
    cases identifierEq : readIdentifier raw <;> rw [identifierEq] at read <;> cases read
    rfl

theorem kind_of_standard {kind : ParameterKind} {raw : String} {value : Value}
    (read : Coercion.standard kind raw = .ok value) : value.kind = kind := by
  unfold Coercion.standard at read
  cases valueEq : readValue kind raw with
  | error fault =>
    rw [valueEq] at read
    cases read
  | ok found =>
    rw [valueEq] at read
    cases read
    exact kind_of_readValue valueEq

namespace Arguments

/-- The argument at a position, read as a given kind. -/
def access (arguments : Arguments) (kind : ParameterKind) (index : Nat) :
    Except ArgumentError Value :=
  match kind with
  | .integer => (arguments.integer index).map Value.integer
  | .float => (arguments.float index).map Value.float
  | .text => (arguments.text index).map Value.text
  | .identifier => (arguments.identifier index).map Value.identifier

variable {arguments : Arguments} {kind : ParameterKind} {index : Nat} {value : Value}

/-- Reading an argument, for any accessor that knows exactly the values of its own kind. -/
theorem map_read {Content : Type} {expected : ParameterKind} {select : Value → Option Content}
    (wrap : Content → Value) (knows : ∀ value,
      (select value).map wrap = if value.kind = expected then some value else none) :
    (arguments.read expected select index).map wrap =
      match arguments.get? index with
      | none => .error (.missing index arguments.size)
      | some value =>
        if value.kind = expected then .ok value
        else .error (.kindMismatch index expected value.kind) := by
  rw [read]
  cases present : arguments.get? index with
  | none => rfl
  | some value =>
    have known := knows value
    by_cases same : value.kind = expected
    · rw [if_pos same] at known
      rcases Option.map_eq_some_iff.mp known with ⟨content, selected, rfl⟩
      simp only [selected, if_pos same]
      rfl
    · rw [if_neg same] at known
      simp only [Option.map_eq_none_iff.mp known, if_neg same]
      rfl

theorem access_eq (arguments : Arguments) (kind : ParameterKind) (index : Nat) :
    arguments.access kind index =
      match arguments.get? index with
      | none => .error (.missing index arguments.size)
      | some value =>
        if value.kind = kind then .ok value
        else .error (.kindMismatch index kind value.kind) := by
  cases kind with
  | integer => exact map_read Value.integer fun value => by cases value <;> rfl
  | float => exact map_read Value.float fun value => by cases value <;> rfl
  | text => exact map_read Value.text fun value => by cases value <;> rfl
  | identifier => exact map_read Value.identifier fun value => by cases value <;> rfl

theorem display_eq (arguments : Arguments) (kind : ParameterKind) (index : Nat) :
    arguments.display kind index = (arguments.access kind index).map Value.display := by
  cases kind with
  | integer => cases result : arguments.integer index <;> simp only [display, access, result] <;> rfl
  | float => cases result : arguments.float index <;> simp only [display, access, result] <;> rfl
  | text => cases result : arguments.text index <;> simp only [display, access, result] <;> rfl
  | identifier =>
    cases result : arguments.identifier index <;> simp only [display, access, result] <;> rfl

/-- Arguments that tokens are read as by the standard rules. Each of them can be read as the kind of
its parameter, and as no other kind, and there are no more of them than parameters. -/
structure Typed (arguments : Arguments) (parameters : List Parameter) (tokens : List String) :
    Prop where
  size_eq : arguments.size = parameters.length
  declared : ∀ index parameter, parameters[index]? = some parameter →
    ∃ token value, tokens[index]? = some token ∧
      Coercion.standard parameter.kind token = .ok value ∧
      arguments.access parameter.kind index = .ok value
  undeclared : ∀ index parameter kind, parameters[index]? = some parameter →
    kind ≠ parameter.kind →
      arguments.access kind index = .error (.kindMismatch index kind parameter.kind)
  missing : ∀ index kind, parameters.length ≤ index →
    arguments.access kind index = .error (.missing index parameters.length)

/-- What the standard rules read tokens as is typed by the parameters. -/
theorem typed_of_readAs {parameters : List Parameter} {tokens : List String}
    (read : ReadAs Coercion.standard parameters tokens arguments.values) :
    arguments.Typed parameters tokens := by
  rcases read with ⟨count, readings⟩
  have found {index : Nat} {parameter : Parameter}
      (parameterEq : parameters[index]? = some parameter) :
      ∃ token value, tokens[index]? = some token ∧
        Coercion.standard parameter.kind token = .ok value ∧
        arguments.get? index = some value ∧ value.kind = parameter.kind := by
    have inside : index < arguments.values.length := by
      rw [count]
      exact (List.getElem?_eq_some_iff.mp parameterEq).1
    have reading := readings index inside
    rw [readingAt?, parameterEq, Option.bind_some] at reading
    rcases Option.map_eq_some_iff.mp reading with ⟨token, tokenEq, read⟩
    exact ⟨token, _, tokenEq, read, List.getElem?_eq_getElem inside, kind_of_standard read⟩
  refine ⟨count, ?_, ?_, ?_⟩
  · intro index parameter parameterEq
    rcases found parameterEq with ⟨token, value, tokenEq, read, present, same⟩
    exact ⟨token, value, tokenEq, read, by simp [access_eq, present, same]⟩
  · intro index parameter kind parameterEq other
    rcases found parameterEq with ⟨_, value, _, _, present, same⟩
    simp [access_eq, present, same, other.symm]
  · intro index kind behind
    have absent : arguments.get? index = none := by
      apply List.getElem?_eq_none
      rw [count]
      exact behind
    rw [access_eq, absent, size, count]

end Arguments

/-- What a handler does with its arguments: it asks for one of them as a kind of value and goes on
with the answer, or it is done. -/
inductive ArgumentReader (Result : Type) where
  | done (result : Result)
  | ask (kind : ParameterKind) (index : Nat) (next : Value → ArgumentReader Result)

namespace ArgumentReader

variable {Result : Type} {arguments : Arguments} {parameters : List Parameter}

/-- The result of a reader on arguments, or the error of the first reading that fails. -/
def run (arguments : Arguments) : ArgumentReader Result → Except ArgumentError Result
  | done result => .ok result
  | ask kind index next =>
    match arguments.access kind index with
    | .error error => .error error
    | .ok value => (next value).run arguments

/-- Whether a reader asks for declared parameters by their kinds only, whatever the answers are. -/
def AsksDeclared (parameters : List Parameter) : ArgumentReader Result → Prop
  | done _ => True
  | ask kind index next =>
    (∃ parameter, parameters[index]? = some parameter ∧ parameter.kind = kind) ∧
      ∀ value, value.kind = kind → (next value).AsksDeclared parameters

/-- A reader whose result is a reply replies with it, or fails with the error of a reading. -/
def reply (reader : ArgumentReader Reply) (arguments : Arguments) : Reply :=
  match reader.run arguments with
  | .error error => .failure error.message
  | .ok reply => reply

/-- A reader that asks for declared parameters by their kinds meets no error. -/
theorem exists_run_of_typed {tokens : List String} (typed : arguments.Typed parameters tokens)
    {reader : ArgumentReader Result} (declared : reader.AsksDeclared parameters) :
    ∃ result, reader.run arguments = .ok result := by
  induction reader with
  | done result => exact ⟨result, rfl⟩
  | ask kind index next ih =>
    rcases declared with ⟨⟨parameter, parameterEq, rfl⟩, onward⟩
    rcases typed.declared index parameter parameterEq with ⟨token, value, _, read, answer⟩
    rcases ih value (onward value (kind_of_standard read)) with ⟨result, resultEq⟩
    exact ⟨result, by simp only [run, answer, resultEq]⟩

/-- The reader that asks for arguments one after another and shows their texts. -/
def showing : List (ParameterKind × Nat) → (List String → Result) → ArgumentReader Result
  | [], finish => done (finish [])
  | (kind, index) :: others, finish =>
    ask kind index fun value => showing others fun texts => finish (value.display :: texts)

theorem asksDeclared_showing {reads : List (ParameterKind × Nat)} (declared : ∀ read ∈ reads,
      ∃ parameter, parameters[read.2]? = some parameter ∧ parameter.kind = read.1)
    (finish : List String → Result) : (showing reads finish).AsksDeclared parameters := by
  induction reads generalizing finish with
  | nil => trivial
  | cons read others ih =>
    refine ⟨declared read (by simp), ?_⟩
    intro value _
    apply ih
    intro other otherMem
    exact declared other (List.mem_cons_of_mem _ otherMem)

theorem run_showing (reads : List (ParameterKind × Nat)) (finish : List String → Result) :
    (showing reads finish).run arguments =
      (reads.mapM fun read => arguments.display read.1 read.2).map finish := by
  induction reads generalizing finish with
  | nil => rfl
  | cons read others ih =>
    simp only [showing, run, List.mapM_cons, Arguments.display_eq] at ih ⊢
    cases arguments.access read.1 read.2 with
    | error error => rfl
    | ok value =>
      simp only [ih]
      cases others.mapM fun read => (arguments.access read.1 read.2).map Value.display <;> rfl

/-- The stock action that reads arguments is such a reader. -/
theorem perform_read (reads : List (ParameterKind × Nat)) (context : CommandContext StockAction)
    (arguments : Arguments) :
    StockAction.perform (.read reads) context arguments =
      (showing reads Reply.texts).reply arguments := by
  simp only [StockAction.perform, reply, run_showing]
  split
  · rename_i error failed
    have failed : (reads.mapM fun read => arguments.display read.1 read.2) = .error error := failed
    rw [failed]
    rfl
  · rename_i texts shown
    have shown : (reads.mapM fun read => arguments.display read.1 read.2) = .ok texts := shown
    rw [shown]
    rfl

end ArgumentReader

namespace Dispatcher

variable {Action : Type} {dispatcher : Dispatcher Action} {event : TextEvent}
  {handler : Handler Action} {arguments : Arguments}

/-- A handler runs only where the tree answers with its node, with its parameters read from the
tokens of the answer. -/
theorem answer_of_call (wellFormed : dispatcher.tree.WellFormed)
    (called : (dispatcher.handle event).call = some (handler, arguments)) :
    ∃ node tokens, dispatcher.resolve event = .matched node tokens ∧
      dispatcher.tree.handler? node tokens.length = some handler ∧
      handler.arity = tokens.length ∧
      ReadAs dispatcher.coercion handler.parameters tokens arguments.values ∧
      (dispatcher.handle event).result =
        (dispatcher.perform handler.action ⟨event, dispatcher.tree, node⟩ arguments).responses := by
  cases answer : dispatcher.resolve event with
  | noMatch => simp [handle, answer] at called
  | outOfScope node arity response => simp [handle, answer] at called
  | matched node tokens =>
    rcases handler?_of_resolve_matched answer with ⟨found, foundEq⟩
    have fits : found.arity = tokens.length := wellFormed.arity_eq foundEq
    have dispatched : dispatcher.handle event =
        dispatcher.callHandler event found node tokens := by
      simp [handle, answer, foundEq]
    rw [dispatched] at called ⊢
    rcases coerceAll_cases dispatcher.coercion fits with
      ⟨values, read, readAs⟩ | ⟨error, failed, _⟩
    · simp only [callHandler, read, Option.some.injEq, Prod.mk.injEq] at called
      rcases called with ⟨rfl, rfl⟩
      exact ⟨node, tokens, rfl, foundEq, fits, readAs, by simp only [callHandler, read]⟩
    · simp [callHandler, failed] at called

/-- A handler that runs under the standard rules has typed arguments, as many as its arity, read
from the tokens that it was found by. If it only asks for declared parameters by their kinds, it
never fails with the error of an argument: the dispatch gives what it replies. -/
theorem handle_arguments_typed (reachable : dispatcher.tree.Reachable)
    (standard : dispatcher.coercion = Coercion.standard)
    (called : (dispatcher.handle event).call = some (handler, arguments)) :
    ∃ node tokens, dispatcher.resolve event = .matched node tokens ∧
      dispatcher.tree.handler? node tokens.length = some handler ∧
      arguments.size = handler.arity ∧ tokens.length = handler.arity ∧
      arguments.Typed handler.parameters tokens ∧
      ∀ reader : ArgumentReader Reply, reader.AsksDeclared handler.parameters →
        dispatcher.perform handler.action ⟨event, dispatcher.tree, node⟩ arguments =
          reader.reply arguments →
        ∃ reply, reader.run arguments = .ok reply ∧
          (dispatcher.handle event).result = reply.responses := by
  rcases answer_of_call reachable.wellFormed called with
    ⟨node, tokens, answer, found, fits, readAs, resultEq⟩
  rw [standard] at readAs
  have typed := Arguments.typed_of_readAs readAs
  refine ⟨node, tokens, answer, found, typed.size_eq, fits.symm, typed, ?_⟩
  intro reader declared performs
  rcases ArgumentReader.exists_run_of_typed typed declared with ⟨reply, replyEq⟩
  refine ⟨reply, replyEq, ?_⟩
  rw [resultEq, performs, ArgumentReader.reply, replyEq]

/-- A message that pays an amount, with a note between quote characters. -/
def payment : TextEvent :=
  ⟨"!/pay/-7/'a b'", .privateText, "c", "u"⟩

/-- The amount is an integer and not a text, and nothing is behind the note. -/
theorem handle_arguments_typed_payments :
    payments.tree.Reachable ∧ payments.coercion = Coercion.standard ∧
    ∃ handler arguments, (payments.handle payment).call = some (handler, arguments) ∧
      arguments.size = 2 ∧
      arguments.access .integer 0 = .ok (.integer (-7)) ∧
      arguments.access .text 0 = .error (.kindMismatch 0 .text .integer) ∧
      arguments.access .float 2 = .error (.missing 2 2) ∧
      ∃ reply, (ArgumentReader.showing [(.text, 1), (.integer, 0)] Reply.texts).run arguments =
          .ok reply ∧
        (payments.handle payment).result = reply.responses := by
  have called : ((payments.handle payment).call.map
      fun call => (call.1.parameters, call.1.action)) =
        some ([⟨"amount", .integer⟩, ⟨"note", .text⟩], .read [(.text, 1), (.integer, 0)]) := by
    decide +kernel
  have answered : payments.resolve payment = .matched ⟨1⟩ ["-7", "a b"] := by decide +kernel
  rcases Option.map_eq_some_iff.mp called with ⟨⟨handler, arguments⟩, callEq, same⟩
  rcases Prod.mk.inj same with ⟨parametersEq, actionEq⟩
  simp only at parametersEq actionEq
  rcases handle_arguments_typed payments_reachable rfl callEq with
    ⟨node, tokens, answer, _, sizeEq, _, typed, replies⟩
  rw [answered, Resolution.matched.injEq] at answer
  rcases answer with ⟨rfl, rfl⟩
  rw [parametersEq] at typed replies
  refine ⟨payments_reachable, rfl, handler, arguments, callEq, ?_, ?_, ?_, ?_, ?_⟩
  · rw [sizeEq, Handler.arity, parametersEq]
    rfl
  · rcases typed.declared 0 ⟨"amount", .integer⟩ rfl with ⟨token, value, tokenEq, read, amount⟩
    have amountEq : Coercion.standard .integer "-7" = .ok (.integer (-7)) := by rfl
    cases tokenEq
    rw [amountEq] at read
    cases read
    exact amount
  · exact typed.undeclared 0 ⟨"amount", .integer⟩ .text rfl (by decide)
  · exact typed.missing 2 .float (by decide)
  · apply replies
    · apply ArgumentReader.asksDeclared_showing
      decide
    · rw [actionEq]
      exact ArgumentReader.perform_read _ ⟨payment, payments.tree, ⟨1⟩⟩ arguments

end Dispatcher

end Switchboard
