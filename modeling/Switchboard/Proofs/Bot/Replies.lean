import Switchboard.Bot.Session
import Switchboard.Dispatch.Stock

/-!
# Replies in a session

In a session a bot is given messages, and at times the chance to store the records of use. What it
replies to a message is decided by its commands and by the section on replies. Neither what came
before nor whether, where to and how many uses are recorded makes a difference, since none of this
reaches the dispatcher. Two bots with the same commands can therefore be compared at any two points
of their sessions.
-/

namespace Switchboard

variable {Action State Other : Type}

/-- What a bot meets in a session. -/
inductive SessionStep where
  | message (event : TextEvent)
  /-- The records that wait can be stored. -/
  | pause
  deriving DecidableEq, Repr

namespace SessionStep

/-- The message of a step. -/
def event? : SessionStep → Option TextEvent
  | message event => some event
  | pause => none

end SessionStep

namespace Bot

/-- The bot after a step of a session, and its answers. -/
def step (bot : Bot Action State) : SessionStep → Bot Action State × List Answer
  | .message event => ((bot.handle event).1, [(bot.handle event).2])
  | .pause => (bot.flush.1, [])

/-- The bot after the steps of a session, and its answers. -/
def session (bot : Bot Action State) : List SessionStep → Bot Action State × List Answer
  | [] => (bot, [])
  | step :: rest =>
    let (next, answers) := bot.step step
    let (final, others) := next.session rest
    (final, answers ++ others)

/-- Two bots that have the same commands and the same section on replies. -/
structure Alike (bot : Bot Action State) (other : Bot Action Other) : Prop where
  dispatcher_eq : bot.dispatcher = other.dispatcher
  replies_eq : bot.configuration.replies = other.configuration.replies

namespace Alike

variable {bot : Bot Action State} {other : Bot Action Other}

theorem symm (alike : Alike bot other) : Alike other bot :=
  ⟨alike.dispatcher_eq.symm, alike.replies_eq.symm⟩

theorem trans {Third : Type} {third : Bot Action Third} (alike : Alike bot other)
    (onward : Alike other third) : Alike bot third :=
  ⟨alike.dispatcher_eq.trans onward.dispatcher_eq, alike.replies_eq.trans onward.replies_eq⟩

theorem answer_eq (alike : Alike bot other) (event : TextEvent) :
    (bot.handle event).2 = (other.handle event).2 := by
  simp only [handle, alike.dispatcher_eq, alike.replies_eq]

end Alike

theorem alike_step (bot : Bot Action State) (step : SessionStep) :
    Alike bot (bot.step step).1 := by
  cases step with
  | message event =>
    simp only [Bot.step, handle, record]
    split <;> exact ⟨rfl, rfl⟩
  | pause => exact ⟨rfl, rfl⟩

/-- A session leaves a bot that cannot be told apart from the bot at its beginning. -/
theorem alike_session (bot : Bot Action State) (steps : List SessionStep) :
    Alike bot (bot.session steps).1 := by
  induction steps generalizing bot with
  | nil => exact ⟨rfl, rfl⟩
  | cons step rest ih => exact (bot.alike_step step).trans (ih (bot.step step).1)

theorem step_answers (bot : Bot Action State) (step : SessionStep) :
    (bot.step step).2 = step.event?.toList.map fun event => (bot.handle event).2 := by
  cases step <;> rfl

/-- Each message of a session is answered as if it were the first one. -/
theorem session_answers (bot : Bot Action State) (steps : List SessionStep) :
    (bot.session steps).2 =
      (steps.filterMap SessionStep.event?).map fun event => (bot.handle event).2 := by
  induction steps generalizing bot with
  | nil => rfl
  | cons step rest ih =>
    have later : ∀ event, ((bot.step step).1.handle event).2 = (bot.handle event).2 := by
      intro event
      exact (bot.alike_step step).symm.answer_eq event
    calc
      (bot.session (step :: rest)).2
        = (bot.step step).2 ++ ((bot.step step).1.session rest).2 := rfl
      _ = (step.event?.toList.map fun event => (bot.handle event).2) ++
          (rest.filterMap SessionStep.event?).map fun event => (bot.handle event).2 := by
        rw [step_answers, ih]
        simp only [later]
      _ = ((step :: rest).filterMap SessionStep.event?).map fun event => (bot.handle event).2 := by
        cases step <;> rfl

section Assembled

variable {configuration : Configuration} {backgroundTasks : Bool} {build : CommandBuilder Action}
  {perform : Action → CommandContext Action → Arguments → Reply} {sink : UsageSink State}
  {state : State} {bot : Bot Action State}

/-- What a bot answers with is within the limit that it has been given. -/
theorem length_answer_le {settings : ReplySettings} (sound : settings.fault? = none)
    (result : Except DispatchError (List Response)) :
    (settings.answer result).replies.length ≤ settings.maxResponses := by
  have positive := ReplySettings.fault?_eq_none_iff.mp sound
  cases result with
  | ok responses =>
    simp only [ReplySettings.answer, List.length_take]
    omega
  | error error =>
    simp only [ReplySettings.answer, List.length_singleton]
    omega

/-- Bots that are built from the same commands and the same section on replies are alike. -/
theorem alike_of_assemble {otherConfiguration : Configuration} {otherTasks : Bool}
    {otherSink : UsageSink Other} {otherState : Other} {other : Bot Action Other}
    (commandEq : configuration.command = otherConfiguration.command)
    (repliesEq : configuration.replies = otherConfiguration.replies)
    (assembled : assemble configuration backgroundTasks build perform sink state = .ok bot)
    (otherAssembled : assemble otherConfiguration otherTasks build perform otherSink otherState =
      .ok other) :
    Alike bot other := by
  rcases assemble_eq_ok_iff.mp assembled with ⟨_, _, root, tree, created, built, rfl⟩
  rcases assemble_eq_ok_iff.mp otherAssembled with
    ⟨_, _, otherRoot, otherTree, otherCreated, otherBuilt, rfl⟩
  have rootEq : root = otherRoot := by
    rw [commandEq, otherCreated] at created
    exact (Except.ok.inj created).symm
  have treeEq : tree = otherTree := by
    rw [rootEq, otherBuilt] at built
    exact (Except.ok.inj built).symm
  exact ⟨by rw [treeEq], repliesEq⟩

/-- A reply list is what the dispatch of the message alone gives, cut at the limit, or the text for
failures. Nothing but the message, the commands and the section on replies has a part in it. This
takes the replies of handlers to be functions of the context and the arguments, as `perform` is:
what a handler remembers by itself is outside of the bot. -/
theorem session_replies
    (assembled : assemble configuration backgroundTasks build perform sink state = .ok bot) :
    (∃ root tree, CommandTree.ofRoot configuration.command.rootDeclaration = .ok root ∧
      build root = .ok tree ∧ bot.dispatcher = ⟨tree, .membership, .standard, perform⟩) ∧
    (∀ earlier event,
      let replies := ((bot.session earlier).1.handle event).2.replies
      replies.length ≤ configuration.replies.maxResponses ∧
        match (bot.dispatcher.handle event).result with
        | .ok responses => replies = responses.take configuration.replies.maxResponses
        | .error _ => replies = [⟨configuration.replies.failureMessage⟩]) ∧
    ∀ (Other : Type) (otherConfiguration : Configuration) (otherTasks : Bool)
      (otherSink : UsageSink Other) (otherState : Other) (other : Bot Action Other),
      assemble otherConfiguration otherTasks build perform otherSink otherState = .ok other →
      configuration.command = otherConfiguration.command →
      configuration.replies = otherConfiguration.replies →
      ∀ earlier otherEarlier steps otherSteps,
        steps.filterMap SessionStep.event? = otherSteps.filterMap SessionStep.event? →
        ((bot.session earlier).1.session steps).2.map Answer.replies =
          ((other.session otherEarlier).1.session otherSteps).2.map Answer.replies := by
  refine ⟨?_, ?_, ?_⟩
  · rcases assemble_eq_ok_iff.mp assembled with ⟨_, _, root, tree, created, built, rfl⟩
    exact ⟨root, tree, created, built, rfl⟩
  · intro earlier event
    have answerEq : ((bot.session earlier).1.handle event).2 =
        configuration.replies.answer (bot.dispatcher.handle event).result := by
      rw [← (bot.alike_session earlier).answer_eq event]
      rcases assemble_eq_ok_iff.mp assembled with ⟨_, _, root, tree, _, _, rfl⟩
      rfl
    have sound := (Configuration.fault?_eq_none_iff.mp (assemble_eq_ok_iff.mp assembled).1).2.2.2
    simp only [answerEq]
    refine ⟨length_answer_le sound _, ?_⟩
    cases (bot.dispatcher.handle event).result <;> rfl
  · intro Other otherConfiguration otherTasks otherSink otherState other otherAssembled commandEq
      repliesEq earlier otherEarlier steps otherSteps sameMessages
    -- Each bot is like its own beginning, and the two beginnings are alike.
    have alike : Alike (bot.session earlier).1 (other.session otherEarlier).1 :=
      ((bot.alike_session earlier).symm.trans
        (alike_of_assemble commandEq repliesEq assembled otherAssembled)).trans
          (other.alike_session otherEarlier)
    rw [session_answers, session_answers, sameMessages]
    congr 1
    exact List.map_congr_left fun event _ => alike.answer_eq event

end Assembled

/-- The feature of greeting. -/
def greetingFeature : Feature :=
  ⟨"greeting", "Says hello."⟩

/-- A bot that greets twice in a group, or reads how often it shall do so. -/
def greeter {State : Type} (usage : UsageSettings) (sink : UsageSink State) (state : State) :
    Except BotError (Bot StockAction State) :=
  assemble { replies := { maxResponses := 1 }, usage := usage } true
    (BuildStep.builder [
      .addChild .root { codes := ["greet"] },
      .register ⟨1⟩ { scope := .groupOnly, feature := some greetingFeature }
        (.fixed (.texts ["hello", "hello"])),
      .register ⟨1⟩ { parameters := [⟨"times", .integer⟩] } .arguments])
    StockAction.perform sink state

/-- A session with the bot that greets. After the pause one message is out of scope, and the other
one cannot be read. -/
def greetings : List SessionStep :=
  [.message ⟨"JC greet", .groupPublicText, "hall", "ann"⟩,
    .message ⟨"JC greet", .groupPublicText, "hall", "bob"⟩, .pause,
    .message ⟨"JC greet", .privateText, "lobby", "ann"⟩,
    .message ⟨"JC greet x", .privateText, "lobby", "ann"⟩]

/-- Of two bots that greet, one stores uses in a full queue and the other one does not store any. -/
theorem session_replies_greeter :
    ∃ bot silent,
      greeter { queueCapacity := 1 } (.failing "database offline") 0 = .ok bot ∧
      greeter { enabled := false } .memory [] = .ok silent ∧
      (bot.session greetings).2.map Answer.replies =
        [[⟨"hello"⟩], [⟨"hello"⟩], [⟨CommandScope.groupOnly.rejection .privateText⟩],
          [⟨"Something went wrong while running this command."⟩]] ∧
      ((bot.session greetings).1.session greetings).2.map Answer.replies =
        (silent.session (greetings.filter (· ≠ .pause))).2.map Answer.replies := by
  obtain ⟨bot, assembled⟩ :
      ∃ bot, greeter { queueCapacity := 1 } (.failing "database offline") 0 = .ok bot := ⟨_, rfl⟩
  obtain ⟨silent, silentAssembled⟩ : ∃ bot, greeter { enabled := false } .memory [] = .ok bot :=
    ⟨_, rfl⟩
  refine ⟨bot, silent, assembled, silentAssembled, ?_, ?_⟩
  · have replies : ((greeter { queueCapacity := 1 } (.failing "database offline") 0).toOption.map
        fun bot => (bot.session greetings).2.map Answer.replies) =
        some [[⟨"hello"⟩], [⟨"hello"⟩], [⟨CommandScope.groupOnly.rejection .privateText⟩],
          [⟨"Something went wrong while running this command."⟩]] := by
      decide +kernel
    rw [assembled] at replies
    exact Option.some.inj replies
  · rcases session_replies assembled with ⟨_, _, independent⟩
    exact independent _ _ _ _ _ silent silentAssembled rfl rfl _ [] _ _ rfl

end Bot

end Switchboard
