import Switchboard.Proofs.Bot.Replies
import Switchboard.Proofs.Dispatch.Effects
import Switchboard.Proofs.Usage.Accounting

/-!
# Accounting of uses in a session

The records of use pass from the dispatch of a message through the queue to the sink. Between two
pauses the queue is only filled, so of each stretch of messages it keeps the first records that it
has room for, and a pause or the end of the session hands all of them on. A session therefore
stores the records of its stretches, each cut at the capacity of the queue, one after the other.
-/

namespace Switchboard

variable {Action State : Type}

namespace Dispatcher

/-- The use that a message is of a command. -/
def usage? (dispatcher : Dispatcher Action) (event : TextEvent) : Option UsageRecord :=
  match dispatcher.resolve event with
  | .noMatch | .outOfScope _ _ _ => none
  | .matched node tokens =>
    (dispatcher.tree.handler? node tokens.length).map fun handler =>
      ⟨handler.feature, event.channelId, event.userId⟩

/-- A message is a use exactly if a handler answers to it. -/
theorem usage?_cases (dispatcher : Dispatcher Action) (event : TextEvent) :
    match dispatcher.resolve event with
    | .noMatch | .outOfScope _ _ _ => dispatcher.usage? event = none
    | .matched node tokens =>
      ∃ handler, dispatcher.tree.handler? node tokens.length = some handler ∧
        dispatcher.usage? event = some ⟨handler.feature, event.channelId, event.userId⟩ := by
  cases answer : dispatcher.resolve event with
  | noMatch => simp [usage?, answer]
  | outOfScope node arity response => simp [usage?, answer]
  | matched node tokens =>
    rcases handler?_of_resolve_matched answer with ⟨handler, found⟩
    exact ⟨handler, found, by simp [usage?, answer, found]⟩

theorem records_callHandler (dispatcher : Dispatcher Action) (event : TextEvent)
    (handler : Handler Action) (node : NodeId) (tokens : List String) :
    (dispatcher.callHandler event handler node tokens).records =
      [⟨handler.feature, event.channelId, event.userId⟩] := by
  unfold callHandler
  split <;> rfl

/-- A dispatch reports the use that its message is, whatever comes of the handler. -/
theorem records_handle (dispatcher : Dispatcher Action) (event : TextEvent) :
    (dispatcher.handle event).records = (dispatcher.usage? event).toList := by
  rw [handle, usage?]
  cases dispatcher.resolve event with
  | noMatch => rfl
  | outOfScope node arity response => rfl
  | matched node tokens =>
    cases found : dispatcher.tree.handler? node tokens.length with
    | none => simp only [found, Option.map_none, Option.toList_none]
    | some handler => simp only [found, records_callHandler, Option.map_some, Option.toList_some]

end Dispatcher

namespace SessionStep

/-- The messages of each stretch between two pauses of a session. -/
def stretches (steps : List SessionStep) : List (List TextEvent) :=
  (steps.splitOn pause).map (List.filterMap event?)

@[simp]
theorem stretches_nil : stretches [] = [[]] :=
  rfl

@[simp]
theorem stretches_message (event : TextEvent) (rest : List SessionStep) :
    stretches (message event :: rest) = (stretches rest).modifyHead (event :: ·) := by
  simp only [stretches, List.splitOn, List.splitOnP_cons_eq_if_modifyHead]
  cases List.splitOnP (· == pause) rest <;> rfl

@[simp]
theorem stretches_pause (rest : List SessionStep) :
    stretches (pause :: rest) = [] :: stretches rest := by
  simp [stretches, List.splitOn, List.splitOnP_cons_eq_if_modifyHead]

end SessionStep

theorem take_take_append {Item : Type} (items others : List Item) (count : Nat) :
    (items.take count ++ others).take count = (items ++ others).take count := by
  rw [List.take_append, List.take_append, List.take_take, Nat.min_self, List.length_take]
  congr 2
  omega

namespace Dispatcher

/-- The uses that a queue keeps of stretches of messages, if some wait before the first one. -/
def usesKept (dispatcher : Dispatcher Action) (capacity : Nat) (pending : List UsageRecord)
    (stretches : List (List TextEvent)) : List UsageRecord :=
  ((stretches.map (List.filterMap dispatcher.usage?)).modifyHead (pending ++ ·)).flatMap
    (List.take capacity)

variable (dispatcher : Dispatcher Action) (capacity : Nat) (pending : List UsageRecord)
  (stretches : List (List TextEvent))

theorem usesKept_nil :
    dispatcher.usesKept capacity [] stretches =
      stretches.flatMap fun events => (events.filterMap dispatcher.usage?).take capacity := by
  cases stretches with
  | nil => rfl
  | cons events rest => simp [usesKept, List.flatMap_map]

theorem usesKept_pause :
    dispatcher.usesKept capacity pending ([] :: stretches) =
      pending.take capacity ++ dispatcher.usesKept capacity [] stretches := by
  rw [usesKept_nil]
  simp [usesKept, List.flatMap_map]

theorem usesKept_message (event : TextEvent) :
    dispatcher.usesKept capacity ((pending ++ (dispatcher.usage? event).toList).take capacity)
        stretches =
      dispatcher.usesKept capacity pending (stretches.modifyHead (event :: ·)) := by
  cases stretches with
  | nil => rfl
  | cons events rest =>
    simp only [usesKept, List.map_cons, List.modifyHead_cons, List.flatMap_cons, take_take_append,
      List.append_assoc]
    cases used : dispatcher.usage? event with
    | none => rw [List.filterMap_cons_none used, Option.toList_none, List.nil_append]
    | some record =>
      rw [List.filterMap_cons_some used, Option.toList_some, List.singleton_append]

end Dispatcher

namespace UsageStream

/-- A stream with one recorder and a worker that takes records, some of which wait. -/
def holding (capacity : Nat) (items : List UsageRecord) : UsageStream where
  queue := { capacity := capacity, items := items }

theorem record_holding {capacity : Nat} {items : List UsageRecord}
    (fits : items.length ≤ capacity) (record : UsageRecord) :
    (holding capacity items).record record =
      holding capacity ((items ++ [record]).take capacity) := by
  rcases Nat.lt_or_eq_of_le fits with room | full
  · have accepts : (holding capacity items).accepts = true := by
      simp [UsageStream.accepts, BoundedQueue.accepts, holding, room]
    have kept : (items ++ [record]).length ≤ capacity := by
      rw [List.length_append, List.length_singleton]
      exact room
    rw [record_of_accepts accepts, List.take_of_length_le kept]
    rfl
  · have refuses : (holding capacity items).accepts = false := by
      simp [UsageStream.accepts, BoundedQueue.accepts, holding, full]
    rw [record_of_not_accepts refuses, ← full, List.take_left]

/-- The queue keeps the first records that it has room for. -/
theorem foldl_record_holding {capacity : Nat} {items : List UsageRecord}
    (fits : items.length ≤ capacity) (records : List UsageRecord) :
    records.foldl UsageStream.record (holding capacity items) =
      holding capacity ((items ++ records).take capacity) := by
  induction records generalizing items with
  | nil => rw [List.foldl_nil, List.append_nil, List.take_of_length_le fits]
  | cons record rest ih =>
    rw [List.foldl_cons, record_holding fits, ih (List.length_take_le _ _), take_take_append,
      List.append_assoc, List.singleton_append]

/-- A worker that is given the chance hands on all that waits. -/
theorem run_holding (capacity : Nat) (items : List UsageRecord) :
    (holding capacity items).run = (holding capacity [], items) := by
  induction items with
  | nil => exact run_of_waits rfl
  | cons record rest ih =>
    have stepped : (holding capacity (record :: rest)).step? =
        some (holding capacity rest, [record]) := rfl
    rw [run_of_step? stepped, ih, List.singleton_append]

/-- A worker that is told to end hands on all that waits before it does. -/
theorem run_cancel_holding (capacity : Nat) (items : List UsageRecord) :
    (holding capacity items).cancel.run.2 = items := by
  have stepped : (holding capacity items).cancel.step? =
      some ((holding capacity items).cancel.startDraining, []) := rfl
  rw [run_of_step? stepped, List.nil_append]
  induction items with
  | nil =>
    have ends : (holding capacity []).cancel.startDraining.step? =
        some ({ (holding capacity []).cancel.startDraining with phase := .ended }, []) := rfl
    rw [run_of_step? ends, run_of_waits rfl, List.nil_append]
  | cons record rest ih =>
    have takes : (holding capacity (record :: rest)).cancel.startDraining.step? =
        some ((holding capacity rest).cancel.startDraining, [record]) := rfl
    rw [run_of_step? takes, ih rfl, List.singleton_append]

end UsageStream

namespace Bot

/-- A bot that records uses, some of which wait in its queue. -/
structure Holds (bot : Bot Action State) (capacity : Nat) (pending : List UsageRecord) : Prop where
  enabled : bot.configuration.usage.enabled = true
  stream_eq : bot.recording.stream = .holding capacity pending
  length_le : pending.length ≤ capacity

namespace Holds

variable {bot : Bot Action State} {capacity : Nat} {pending : List UsageRecord}

theorem handle_eq (holds : Holds bot capacity pending) (event : TextEvent) :
    (bot.handle event).1 =
      { bot with recording := { bot.recording with
          stream := .holding capacity
            ((pending ++ (bot.dispatcher.usage? event).toList).take capacity) } } := by
  simp only [Bot.handle, record, holds.enabled, if_true, holds.stream_eq,
    UsageStream.foldl_record_holding holds.length_le, Dispatcher.records_handle]

theorem flush_eq (holds : Holds bot capacity pending) :
    bot.flush.1 =
      { bot with recording := { bot.recording with
          stream := .holding capacity []
          state := (bot.recording.sink.receiveAll bot.recording.state pending).1 } } := by
  simp only [Bot.flush, UsageRecording.run, holds.stream_eq, UsageStream.run_holding]

theorem handle (holds : Holds bot capacity pending) (event : TextEvent) :
    Holds (bot.handle event).1 capacity
      ((pending ++ (bot.dispatcher.usage? event).toList).take capacity) := by
  rw [holds.handle_eq]
  exact ⟨holds.enabled, rfl, List.length_take_le _ _⟩

theorem flush (holds : Holds bot capacity pending) : Holds bot.flush.1 capacity [] := by
  rw [holds.flush_eq]
  exact ⟨holds.enabled, rfl, Nat.zero_le _⟩

theorem state_shutDown (holds : Holds bot capacity pending) :
    bot.shutDown.1.recording.state =
      (bot.recording.sink.receiveAll bot.recording.state pending).1 := by
  simp only [shutDown, Bot.flush, UsageRecording.run, holds.stream_eq,
    UsageStream.run_cancel_holding]

/-- What waits at the beginning of a session is stored as if it belonged to the first stretch. -/
theorem state_session (holds : Holds bot capacity pending) (steps : List SessionStep) :
    (bot.session steps).1.shutDown.1.recording.state =
      (bot.recording.sink.receiveAll bot.recording.state
        (bot.dispatcher.usesKept capacity pending (SessionStep.stretches steps))).1 := by
  -- A message adds to the first stretch, and a pause stores it and begins another one.
  induction steps generalizing bot pending with
  | nil =>
    rw [SessionStep.stretches_nil, Dispatcher.usesKept_pause, Dispatcher.usesKept_nil,
      List.take_of_length_le holds.length_le]
    simpa [session] using holds.state_shutDown
  | cons step rest ih =>
    cases step with
    | message event =>
      have later := ih (holds.handle event)
      simp only [holds.handle_eq] at later
      rw [SessionStep.stretches_message, ← Dispatcher.usesKept_message]
      simpa only [session, step, holds.handle_eq] using later
    | pause =>
      have later := ih holds.flush
      simp only [holds.flush_eq] at later
      rw [SessionStep.stretches_pause, Dispatcher.usesKept_pause,
        List.take_of_length_le holds.length_le, UsageSink.receiveAll_append]
      simpa only [session, step, holds.flush_eq] using later

end Holds

section Assembled

variable {configuration : Configuration} {backgroundTasks : Bool} {build : CommandBuilder Action}
  {perform : Action → CommandContext Action → Arguments → Reply} {sink : UsageSink State}
  {state : State} {bot : Bot Action State}

theorem state_session_of_assemble
    (assembled : assemble configuration backgroundTasks build perform sink state = .ok bot)
    (enabled : configuration.usage.enabled = true) (steps : List SessionStep) :
    (bot.session steps).1.shutDown.1.recording.state =
      (sink.receiveAll state ((SessionStep.stretches steps).flatMap fun events =>
        (events.filterMap bot.dispatcher.usage?).take configuration.usage.queueCapacity)).1 := by
  rcases assemble_eq_ok_iff.mp assembled with ⟨sound, _, _, tree, _, _, rfl⟩
  rw [← Dispatcher.usesKept_nil]
  apply Holds.state_session
  refine ⟨enabled, ?_, Nat.zero_le _⟩
  have positive : configuration.usage.queueCapacity ≠ 0 :=
    UsageSettings.fault?_eq_none_iff.mp (Configuration.fault?_eq_none_iff.mp sound).2.2.1
  have capacityEq :
      max configuration.usage.queueCapacity 1 = configuration.usage.queueCapacity := by omega
  simp only [UsageRecording.start, UsageStream.ofCapacity, UsageStream.holding, capacityEq]

/-- Where there is a bot, there is one that tells another sink of the same uses. -/
theorem exists_alike {Other : Type} (otherSink : UsageSink Other) (otherState : Other)
    (assembled : assemble configuration backgroundTasks build perform sink state = .ok bot) :
    ∃ other, assemble configuration backgroundTasks build perform otherSink otherState = .ok other ∧
      Alike bot other := by
  rcases assemble_eq_ok_iff.mp assembled with ⟨sound, recordable, root, tree, created, built, _⟩
  have otherAssembled :
      assemble configuration backgroundTasks build perform otherSink otherState =
        .ok ⟨configuration, ⟨tree, .membership, .standard, perform⟩,
          .start configuration.usage.queueCapacity otherSink otherState⟩ :=
    assemble_eq_ok_iff.mpr ⟨sound, recordable, root, tree, created, built, rfl⟩
  exact ⟨_, otherAssembled, alike_of_assemble rfl rfl assembled otherAssembled⟩

/-- A session stores the uses of its stretches, of each one the first as many as there is room for.
A sink that refuses everything is asked as often as one that keeps everything. -/
theorem session_usage
    (assembled : assemble configuration backgroundTasks build perform sink state = .ok bot)
    (enabled : configuration.usage.enabled = true) (steps : List SessionStep) :
    let stored := (SessionStep.stretches steps).flatMap fun events =>
      (events.filterMap bot.dispatcher.usage?).take configuration.usage.queueCapacity
    (bot.session steps).1.shutDown.1.recording.state = (sink.receiveAll state stored).1 ∧
    (∀ event, match bot.dispatcher.resolve event with
      | .noMatch | .outOfScope _ _ _ => bot.dispatcher.usage? event = none
      | .matched node tokens =>
        ∃ handler, bot.dispatcher.tree.handler? node tokens.length = some handler ∧
          bot.dispatcher.usage? event = some ⟨handler.feature, event.channelId, event.userId⟩) ∧
    (∃ remembering,
      assemble configuration backgroundTasks build perform .memory [] = .ok remembering ∧
      (remembering.session steps).1.shutDown.1.recording.state = stored) ∧
    ∀ reason, ∃ refusing,
      assemble configuration backgroundTasks build perform (.failing reason) 0 = .ok refusing ∧
      (refusing.session steps).1.shutDown.1.recording.state = stored.length := by
  intro stored
  refine ⟨state_session_of_assemble assembled enabled steps, bot.dispatcher.usage?_cases, ?_, ?_⟩
  · rcases exists_alike .memory [] assembled with ⟨remembering, otherAssembled, alike⟩
    refine ⟨remembering, otherAssembled, ?_⟩
    rw [state_session_of_assemble otherAssembled enabled, ← alike.dispatcher_eq,
      UsageSink.receiveAll_memory, List.nil_append]
  · intro reason
    rcases exists_alike (.failing reason) 0 assembled with ⟨refusing, otherAssembled, alike⟩
    refine ⟨refusing, otherAssembled, ?_⟩
    rw [state_session_of_assemble otherAssembled enabled, ← alike.dispatcher_eq,
      UsageSink.receiveAll_failing, Nat.zero_add]

end Assembled

/-- With room for one record, the second greeting is lost, and the message that cannot be read is
stored after the pause. -/
theorem session_usage_greeter :
    ∃ bot remembering,
      greeter { queueCapacity := 1 } (.failing "database offline") 0 = .ok bot ∧
      greeter { queueCapacity := 1 } .memory [] = .ok remembering ∧
      (bot.session greetings).1.shutDown.1.recording.state = 2 ∧
      (remembering.session greetings).1.shutDown.1.recording.state =
        [⟨some greetingFeature, "hall", "ann"⟩, ⟨none, "lobby", "ann"⟩] := by
  obtain ⟨bot, assembled⟩ :
      ∃ bot, greeter { queueCapacity := 1 } (.failing "database offline") 0 = .ok bot := ⟨_, rfl⟩
  have stored : ((greeter { queueCapacity := 1 } (.failing "database offline") 0).toOption.map
      fun bot => (SessionStep.stretches greetings).flatMap fun events =>
        (events.filterMap bot.dispatcher.usage?).take 1) =
      some [⟨some greetingFeature, "hall", "ann"⟩, ⟨none, "lobby", "ann"⟩] := by
    decide +kernel
  rw [assembled] at stored
  have storedEq := Option.some.inj stored
  rcases session_usage assembled rfl greetings with
    ⟨stateEq, _, ⟨remembering, otherAssembled, othersEq⟩, _⟩
  refine ⟨bot, remembering, assembled, otherAssembled, ?_, othersEq.trans storedEq⟩
  rw [stateEq]
  simp only [storedEq]
  rfl

end Bot

end Switchboard
