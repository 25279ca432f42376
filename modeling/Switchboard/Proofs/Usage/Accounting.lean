import Mathlib.Tactic.ByContra
import Switchboard.Usage.Recording

/-!
# Accounting of usage records

Recorders, the worker and whoever ends it act in any order. A ledger goes with a recording through
all that happens and writes down which records the queue has accepted and which the worker has
handed on. Whatever the order, the records handed on and those that wait are the accepted ones.
The worker may also take a step without noticing that it has been told to end in the meantime.
-/

namespace Switchboard

namespace UsageSink

variable {State : Type}

theorem receiveAll_append (sink : UsageSink State) (state : State)
    (records others : List UsageRecord) :
    sink.receiveAll state (records ++ others) =
      ((sink.receiveAll (sink.receiveAll state records).1 others).1,
        (sink.receiveAll state records).2 ++
          (sink.receiveAll (sink.receiveAll state records).1 others).2) := by
  induction records generalizing state with
  | nil => simp [receiveAll]
  | cons record rest ih => simp [receiveAll, ih]

theorem receiveAll_memory (records others : List UsageRecord) :
    (memory.receiveAll records others).1 = records ++ others := by
  induction others generalizing records with
  | nil => simp [receiveAll]
  | cons record rest ih =>
    rw [List.append_cons]
    exact ih (records ++ [record])

theorem receiveAll_failing (reason : String) (attempts : Nat) (records : List UsageRecord) :
    ((failing reason).receiveAll attempts records).1 = attempts + records.length := by
  induction records generalizing attempts with
  | nil => rfl
  | cons record rest ih =>
    have later := ih (attempts + 1)
    rw [List.length_cons, ← Nat.add_assoc, Nat.add_right_comm]
    exact later

end UsageSink

/-- What can happen to a recording. -/
inductive RecordingEvent where
  /-- A recorder is given a record. -/
  | record (record : UsageRecord)
  | cloneRecorder
  | dropRecorder
  /-- The worker is told to end. -/
  | cancel
  /-- The worker takes its next step, and perhaps misses that it has been told to end. -/
  | work (noticing : Bool)
  deriving DecidableEq, Repr

namespace UsageStream

/-- Whether a record that is given to a recorder gets into the queue. -/
def accepts (stream : UsageStream) : Bool :=
  stream.recorders != 0 && stream.queue.accepts

/-- The next step of a worker that may miss that it has been told to end. -/
def stepNoticing? (noticing : Bool) (stream : UsageStream) :
    Option (UsageStream × List UsageRecord) :=
  let seen : UsageStream := { stream with cancelled := noticing && stream.cancelled }
  seen.step?.map fun (next, records) => ({ next with cancelled := stream.cancelled }, records)

theorem record_of_accepts {stream : UsageStream} (accepts : stream.accepts = true)
    (record : UsageRecord) :
    stream.record record =
      { stream with queue := { stream.queue with items := stream.queue.items ++ [record] } } := by
  rcases Bool.and_eq_true_iff.mp accepts with ⟨recorded, accepted⟩
  have present : stream.recorders ≠ 0 := by simpa using recorded
  rw [UsageStream.record, if_neg present, BoundedQueue.offer, if_pos accepted]

theorem record_of_not_accepts {stream : UsageStream} (refuses : stream.accepts = false)
    (record : UsageRecord) : stream.record record = stream := by
  rw [UsageStream.record]
  split
  · rfl
  · rename_i present
    have refused : stream.queue.accepts = false := by simpa [accepts, present] using refuses
    simp [BoundedQueue.offer, refused]

/-- A worker that misses nothing takes its usual step. -/
theorem stepNoticing?_true (stream : UsageStream) : stream.stepNoticing? true = stream.step? := by
  simp only [stepNoticing?, Bool.true_and]
  cases stepped : stream.step? with
  | none => rfl
  | some result =>
    rcases result with ⟨next, records⟩
    have kept : next.cancelled = stream.cancelled := by
      rcases step?_cases stepped with ⟨_, _, _, _, rfl, _⟩ | ⟨_, rfl, _⟩ | ⟨_, _, rfl, _⟩ <;> rfl
    rw [Option.map_some, ← kept]

/-- Noticing or not, the worker hands on the oldest record, or closes the queue, or ends. -/
theorem stepNoticing?_cases {noticing : Bool} {stream next : UsageStream}
    {records : List UsageRecord} (stepped : stream.stepNoticing? noticing = some (next, records)) :
    (∃ record queue, stream.phase ≠ .ended ∧ stream.queue.take? = some (record, queue) ∧
      next = { stream with queue := queue } ∧ records = [record]) ∨
    (stream.phase = .running ∧ next = stream.startDraining ∧ records = []) ∨
    (stream.phase = .draining ∧ stream.queue.take? = none ∧
      next = { stream with phase := .ended } ∧ records = []) := by
  rcases Option.map_eq_some_iff.mp stepped with ⟨⟨after, handed⟩, taken, same⟩
  rw [Prod.mk.injEq] at same
  rcases same with ⟨rfl, rfl⟩
  rcases step?_cases taken with
    ⟨record, queue, active, oldest, rfl, rfl⟩ | ⟨running, rfl, rfl⟩ | ⟨draining, empty, rfl, rfl⟩
  · exact Or.inl ⟨record, queue, active, oldest, rfl, rfl⟩
  · exact Or.inr (Or.inl ⟨running, rfl, rfl⟩)
  · exact Or.inr (Or.inr ⟨draining, empty, rfl, rfl⟩)

end UsageStream

/-- A recording with what has been accepted, handed on and logged since its start. -/
structure UsageLedger (State : Type) where
  recording : UsageRecording State
  /-- The records that got into the queue, in the order in which they did. -/
  accepted : List UsageRecord := []
  /-- The records that the sink has been asked to store, in this order. -/
  handedOn : List UsageRecord := []
  /-- What has been logged of the attempts to store them. -/
  entries : List LogEntry := []

namespace UsageLedger

variable {State : Type}

/-- The ledger of a recording that starts. -/
def start (capacity : Nat) (sink : UsageSink State) (state : State) : UsageLedger State :=
  { recording := .start capacity sink state }

/-- The ledger whose stream has become another one. -/
def withStream (ledger : UsageLedger State) (stream : UsageStream) : UsageLedger State :=
  { ledger with recording := { ledger.recording with stream := stream } }

/-- The ledger after an event. -/
def after (ledger : UsageLedger State) : RecordingEvent → UsageLedger State
  | .record record =>
    let accepted := if ledger.recording.stream.accepts then [record] else []
    { ledger.withStream (ledger.recording.stream.record record) with
      accepted := ledger.accepted ++ accepted }
  | .cloneRecorder => ledger.withStream ledger.recording.stream.cloneRecorder
  | .dropRecorder => ledger.withStream ledger.recording.stream.dropRecorder
  | .cancel => ledger.withStream ledger.recording.stream.cancel
  | .work noticing =>
    match ledger.recording.stream.stepNoticing? noticing with
    | none => ledger
    | some (stream, records) =>
      let (state, entries) := ledger.recording.sink.receiveAll ledger.recording.state records
      { ledger with
        recording := { ledger.recording with stream := stream, state := state }
        handedOn := ledger.handedOn ++ records
        entries := ledger.entries ++ entries }

/-- The ledger after events in their order. -/
def run (ledger : UsageLedger State) (events : List RecordingEvent) : UsageLedger State :=
  events.foldl after ledger

/-- What holds of a ledger at every point. -/
structure Balanced (capacity : Nat) (sink : UsageSink State) (state : State)
    (ledger : UsageLedger State) : Prop where
  capacity_eq : ledger.recording.stream.queue.capacity = max capacity 1
  sink_eq : ledger.recording.sink = sink
  /-- What has been accepted has been handed on or waits. -/
  books_eq : ledger.handedOn ++ ledger.recording.stream.queue.items = ledger.accepted
  length_le : ledger.recording.stream.queue.items.length ≤ max capacity 1
  stored_eq : sink.receiveAll state ledger.handedOn = (ledger.recording.state, ledger.entries)
  /-- The worker closes the queue before it takes what is left. -/
  closed_iff : ledger.recording.stream.queue.closed = true ↔
    ledger.recording.stream.phase ≠ .running
  ended_empty : ledger.recording.stream.phase = .ended → ledger.recording.stream.queue.items = []

variable {capacity : Nat} {sink : UsageSink State} {state : State} {ledger : UsageLedger State}

theorem balanced_start (capacity : Nat) (sink : UsageSink State) (state : State) :
    Balanced capacity sink state (start capacity sink state) := by
  constructor <;> simp [start, UsageRecording.start, UsageStream.ofCapacity, UsageSink.receiveAll]

/-- A change of the stream that leaves the queue and the worker alone keeps the balance. -/
theorem Balanced.withStream (balanced : Balanced capacity sink state ledger) {stream : UsageStream}
    (queueEq : stream.queue = ledger.recording.stream.queue)
    (phaseEq : stream.phase = ledger.recording.stream.phase) :
    Balanced capacity sink state (ledger.withStream stream) := by
  rcases balanced with ⟨capacityEq, sinkEq, booksEq, lengthLe, storedEq, closedIff, ended⟩
  constructor <;> simp only [UsageLedger.withStream, queueEq, phaseEq] <;> assumption

theorem Balanced.record (balanced : Balanced capacity sink state ledger) (record : UsageRecord) :
    Balanced capacity sink state (ledger.after (.record record)) := by
  cases accepts : ledger.recording.stream.accepts with
  | false =>
    simp only [after, accepts, UsageStream.record_of_not_accepts accepts, Bool.false_eq_true,
      if_false, List.append_nil]
    exact balanced.withStream rfl rfl
  | true =>
    have room : ledger.recording.stream.queue.closed = false ∧
        ledger.recording.stream.queue.items.length < max capacity 1 := by
      rw [← balanced.capacity_eq]
      have accepted := (Bool.and_eq_true_iff.mp accepts).2
      simpa [BoundedQueue.accepts] using accepted
    -- The worker closes the queue before it drains it, so an open queue has a running worker.
    have running : ledger.recording.stream.phase = .running := by
      by_contra active
      have closed := balanced.closed_iff.mpr active
      simp [room.1] at closed
    simp only [after, accepts, UsageStream.record_of_accepts accepts, if_true]
    constructor
    · exact balanced.capacity_eq
    · exact balanced.sink_eq
    · simp [UsageLedger.withStream, ← balanced.books_eq]
    · simp only [UsageLedger.withStream, List.length_append, List.length_singleton]
      omega
    · exact balanced.stored_eq
    · exact balanced.closed_iff
    · intro ended
      simp [UsageLedger.withStream, running] at ended

theorem Balanced.work (balanced : Balanced capacity sink state ledger) (noticing : Bool) :
    Balanced capacity sink state (ledger.after (.work noticing)) := by
  cases stepped : ledger.recording.stream.stepNoticing? noticing with
  | none => simpa only [after, stepped] using balanced
  | some result =>
    rcases result with ⟨next, records⟩
    simp only [after, stepped]
    -- Whatever is handed on now is stored after what has been handed on before.
    have stored : sink.receiveAll state (ledger.handedOn ++ records) =
        let (next, entries) := ledger.recording.sink.receiveAll ledger.recording.state records
        (next, ledger.entries ++ entries) := by
      rw [UsageSink.receiveAll_append, balanced.stored_eq, balanced.sink_eq]
    have booksEq := balanced.books_eq
    have lengthLe := balanced.length_le
    rcases UsageStream.stepNoticing?_cases stepped with
      ⟨record, queue, active, oldest, rfl, rfl⟩ | ⟨running, rfl, rfl⟩ | ⟨draining, empty, rfl, rfl⟩
    · rcases BoundedQueue.items_of_take? oldest with ⟨itemsEq, queueEq⟩
      rw [itemsEq] at booksEq lengthLe
      refine ⟨?_, balanced.sink_eq, ?_, ?_, stored, ?_, ?_⟩
      · rw [queueEq]
        exact balanced.capacity_eq
      · simpa using booksEq
      · exact Nat.le_of_succ_le (by simpa using lengthLe)
      · rw [queueEq]
        exact balanced.closed_iff
      · intro ended
        exact absurd ended active
    · refine ⟨balanced.capacity_eq, balanced.sink_eq, ?_, lengthLe, stored, ?_, ?_⟩
      · rw [List.append_nil]
        exact booksEq
      · simp [UsageStream.startDraining, BoundedQueue.close]
      · intro ended
        simp [UsageStream.startDraining] at ended
    · refine ⟨balanced.capacity_eq, balanced.sink_eq, ?_, lengthLe, stored, ?_, ?_⟩
      · rw [List.append_nil]
        exact booksEq
      · simp [balanced.closed_iff, draining]
      · intro _
        exact BoundedQueue.take?_eq_none_iff.mp empty

theorem Balanced.after (balanced : Balanced capacity sink state ledger) (event : RecordingEvent) :
    Balanced capacity sink state (ledger.after event) := by
  cases event with
  | record record => exact balanced.record record
  | cloneRecorder =>
    apply balanced.withStream <;> rw [UsageStream.cloneRecorder] <;> split <;> rfl
  | dropRecorder => exact balanced.withStream rfl rfl
  | cancel => exact balanced.withStream rfl rfl
  | work noticing => exact balanced.work noticing

theorem Balanced.run (balanced : Balanced capacity sink state ledger)
    (events : List RecordingEvent) : Balanced capacity sink state (ledger.run events) := by
  induction events generalizing ledger with
  | nil => exact balanced
  | cons event rest ih => exact ih (balanced.after event)

/-- A record is accepted unless the queue is closed or full. -/
theorem Balanced.accepts_iff (balanced : Balanced capacity sink state ledger)
    (present : ledger.recording.stream.recorders ≠ 0) :
    ledger.recording.stream.accepts = true ↔
      ¬(ledger.recording.stream.queue.closed = true ∨
        ledger.recording.stream.queue.items.length = max capacity 1) := by
  have lengthLe := balanced.length_le
  have notFullIff : ledger.recording.stream.queue.items.length ≠ max capacity 1 ↔
      ledger.recording.stream.queue.items.length < max capacity 1 := by omega
  simp [UsageStream.accepts, BoundedQueue.accepts, present, balanced.capacity_eq, ← notFullIff]

/-- A record that is refused leaves no trace. -/
theorem after_record_of_not_accepts (refuses : ledger.recording.stream.accepts = false)
    (record : UsageRecord) : ledger.after (.record record) = ledger := by
  simp [UsageLedger.after, UsageLedger.withStream, refuses,
    UsageStream.record_of_not_accepts refuses]

section Sinks

variable {Other : Type} {other : UsageLedger Other}

/-- Two ledgers that have the same records in the same places, whatever their sinks are. -/
structure Parallel (ledger : UsageLedger State) (other : UsageLedger Other) : Prop where
  stream_eq : ledger.recording.stream = other.recording.stream
  accepted_eq : ledger.accepted = other.accepted
  handedOn_eq : ledger.handedOn = other.handedOn

theorem Parallel.withStream (parallel : Parallel ledger other) {stream otherStream : UsageStream}
    (same : stream = otherStream) :
    Parallel (ledger.withStream stream) (other.withStream otherStream) :=
  ⟨same, parallel.accepted_eq, parallel.handedOn_eq⟩

theorem Parallel.after (parallel : Parallel ledger other) (event : RecordingEvent) :
    Parallel (ledger.after event) (other.after event) := by
  have streamEq := parallel.stream_eq
  cases event with
  | record record =>
    refine ⟨?_, ?_, parallel.handedOn_eq⟩
    · exact congrArg (UsageStream.record · record) streamEq
    · simp only [UsageLedger.after, streamEq, parallel.accepted_eq]
  | cloneRecorder => exact parallel.withStream (congrArg UsageStream.cloneRecorder streamEq)
  | dropRecorder => exact parallel.withStream (congrArg UsageStream.dropRecorder streamEq)
  | cancel => exact parallel.withStream (congrArg UsageStream.cancel streamEq)
  | work noticing =>
    simp only [UsageLedger.after, streamEq]
    cases other.recording.stream.stepNoticing? noticing with
    | none => exact parallel
    | some result => exact ⟨rfl, parallel.accepted_eq, by rw [parallel.handedOn_eq]⟩

theorem Parallel.run (parallel : Parallel ledger other) (events : List RecordingEvent) :
    Parallel (ledger.run events) (other.run events) := by
  induction events generalizing ledger other with
  | nil => exact parallel
  | cons event rest ih => exact ih (parallel.after event)

end Sinks

/-- A worker that runs until it waits or has ended takes a number of its steps. -/
theorem run_works (ledger : UsageLedger State) :
    ∃ count, (ledger.run (List.replicate count (.work true))).recording =
      ledger.recording.run.1 := by
  -- Both sides take the same first step, and then fewer steps remain.
  induction remainingEq : ledger.recording.stream.remaining using Nat.strongRecOn
    generalizing ledger with
  | _ remaining ih =>
    cases stepped : ledger.recording.stream.step? with
    | none =>
      refine ⟨0, ?_⟩
      simp [run, UsageRecording.run, UsageStream.run_of_waits stepped, UsageSink.receiveAll]
    | some result =>
      rcases result with ⟨next, records⟩
      have advanced : (ledger.after (.work true)).recording =
          { ledger.recording with
            stream := next
            state := (ledger.recording.sink.receiveAll ledger.recording.state records).1 } := by
        simp [after, UsageStream.stepNoticing?_true, stepped]
      have fewer := UsageStream.remaining_lt_of_step? stepped
      rcases ih next.remaining (by omega) (ledger.after (.work true)) (by rw [advanced]) with
        ⟨count, countEq⟩
      refine ⟨count + 1, ?_⟩
      rw [List.replicate_succ]
      change ((ledger.after (.work true)).run _).recording = _
      rw [countEq, advanced]
      simp [UsageRecording.run, UsageStream.run_of_step? stepped, UsageSink.receiveAll_append]

/-- In whatever order things happen, no accepted record is lost, doubled or put in another place.
The records handed on and those that wait are the accepted ones, and a record is refused only by a
queue that is closed or full. -/
theorem run_accounts (capacity : Nat) (sink : UsageSink State) (state : State)
    (events : List RecordingEvent) :
    let ledger := (start capacity sink state).run events
    let stream := ledger.recording.stream
    ledger.handedOn ++ stream.queue.items = ledger.accepted ∧
    stream.queue.items.length ≤ max capacity 1 ∧
    (∀ record, stream.recorders ≠ 0 →
      if stream.queue.closed = true ∨ stream.queue.items.length = max capacity 1 then
        ledger.after (.record record) = ledger
      else
        (ledger.after (.record record)).accepted = ledger.accepted ++ [record]) ∧
    sink.receiveAll state ledger.handedOn = (ledger.recording.state, ledger.entries) ∧
    (∀ (Other : Type) (other : UsageSink Other) (otherState : Other),
      Parallel ledger ((start capacity other otherState).run events)) ∧
    (stream.hasEnded = true → stream.queue.items = [] ∧ ledger.handedOn = ledger.accepted) ∧
    ∃ count, (ledger.run (List.replicate count (.work true))).recording =
      ledger.recording.run.1 := by
  intro ledger stream
  have balanced : Balanced capacity sink state ledger :=
    (balanced_start capacity sink state).run events
  refine ⟨balanced.books_eq, balanced.length_le, ?_, balanced.stored_eq, ?_, ?_, run_works ledger⟩
  · intro record present
    split
    · rename_i full
      have refuses : stream.accepts = false := by
        rw [← Bool.not_eq_true, balanced.accepts_iff present, not_not]
        exact full
      exact after_record_of_not_accepts refuses record
    · rename_i room
      simp [after, stream, balanced.accepts_iff present, room]
  · intro Other other otherState
    have parallel : Parallel (start capacity sink state) (start capacity other otherState) :=
      ⟨rfl, rfl, rfl⟩
    exact parallel.run events
  · intro ended
    have empty := balanced.ended_empty (by simpa [UsageStream.hasEnded] using ended)
    refine ⟨empty, ?_⟩
    have booksEq := balanced.books_eq
    rw [empty, List.append_nil] at booksEq
    exact booksEq

/-- The use of a command that has no feature. -/
def useBy (user : String) : UsageRecord :=
  ⟨none, "hall", user⟩

/-- Two recorders at a queue of no room, a worker that misses its cancellation once, a record that
gets in before the queue is closed and one that comes too late. -/
def lateEvents : List RecordingEvent :=
  [.record (useBy "ann"), .cloneRecorder, .record (useBy "bob"), .work true, .record (useBy "cid"),
    .cancel, .record (useBy "dan"), .work false, .record (useBy "eve"), .work true,
    .record (useBy "fay"), .dropRecorder, .work true, .work true]

theorem run_accounts_late :
    let ledger := (start 0 (.failing "database offline") 0).run lateEvents
    ledger.recording.stream.hasEnded = true ∧
      ledger.accepted = [useBy "ann", useBy "cid", useBy "eve"] ∧
      ledger.recording.stream.queue.items = [] ∧ ledger.handedOn = ledger.accepted ∧
      ledger.recording.state = 3 := by
  intro ledger
  rcases run_accounts 0 (.failing "database offline") 0 lateEvents with
    ⟨_, _, _, storedEq, _, emptied, _⟩
  have ended : ledger.recording.stream.hasEnded = true := rfl
  rcases emptied ended with ⟨itemsEq, handedOnEq⟩
  exact ⟨ended, rfl, itemsEq, handedOnEq, (congrArg Prod.fst storedEq).symm⟩

end UsageLedger

end Switchboard
