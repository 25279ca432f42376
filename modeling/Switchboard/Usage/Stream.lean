import Switchboard.Message
import Switchboard.Usage.Queue

/-!
# The stream of usage records

Recorders put records into a bounded queue and never wait: a record that finds no room is lost. A
worker takes the records out and hands them on. It runs only when it is given the chance, and then
until it has to wait or has ended.

The worker ends when it is cancelled, or when the queue is empty and no recorder is left. It
closes the queue before, and hands on whatever still waits.
-/

namespace Switchboard

/-- What the worker of a stream is about. -/
inductive WorkerPhase where
  /-- The worker takes records as they come. -/
  | running
  /-- The queue is closed, and the worker takes what is left. -/
  | draining
  /-- The worker does nothing more. -/
  | ended
  deriving DecidableEq, Repr

/-- A queue of records between recorders and a worker. -/
structure UsageStream where
  queue : BoundedQueue UsageRecord
  /-- How many recorders are left. -/
  recorders : Nat := 1
  cancelled : Bool := false
  phase : WorkerPhase := .running
  deriving DecidableEq, Repr

namespace UsageStream

/-- The stream with one recorder. It has room for one record at least. -/
def ofCapacity (capacity : Nat) : UsageStream where
  queue := { capacity := max capacity 1 }

/-- The stream after a recorder has been given a record. Without a recorder nothing happens. -/
def record (stream : UsageStream) (record : UsageRecord) : UsageStream :=
  if stream.recorders = 0 then stream else { stream with queue := stream.queue.offer record }

/-- The stream after a recorder has been copied. Without a recorder there is nothing to copy. -/
def cloneRecorder (stream : UsageStream) : UsageStream :=
  if stream.recorders = 0 then stream else { stream with recorders := stream.recorders + 1 }

/-- The stream after a recorder has been dropped. -/
def dropRecorder (stream : UsageStream) : UsageStream :=
  { stream with recorders := stream.recorders - 1 }

/-- The stream whose worker is told to end. -/
def cancel (stream : UsageStream) : UsageStream :=
  { stream with cancelled := true }

/-- Whether the worker has ended. -/
def hasEnded (stream : UsageStream) : Bool :=
  stream.phase == .ended

/-- The stream whose worker takes only what is left. -/
def startDraining (stream : UsageStream) : UsageStream :=
  { stream with queue := stream.queue.close, phase := .draining }

/-- The next step of the worker, with the records that it hands on. There is none if the worker
has to wait or has ended. -/
def step? (stream : UsageStream) : Option (UsageStream × List UsageRecord) :=
  match stream.phase with
  | .running =>
    if stream.cancelled then
      some (stream.startDraining, [])
    else
      match stream.queue.take? with
      | some (record, queue) => some ({ stream with queue := queue }, [record])
      | none => if stream.recorders = 0 then some (stream.startDraining, []) else none
  | .draining =>
    match stream.queue.take? with
    | some (record, queue) => some ({ stream with queue := queue }, [record])
    | none => some ({ stream with phase := .ended }, [])
  | .ended => none

/-- The worker hands on the oldest record, or closes the queue, or ends. -/
theorem step?_cases {stream next : UsageStream} {records : List UsageRecord}
    (stepped : stream.step? = some (next, records)) :
    (∃ record queue, stream.phase ≠ .ended ∧ stream.queue.take? = some (record, queue) ∧
      next = { stream with queue := queue } ∧ records = [record]) ∨
    (stream.phase = .running ∧ next = stream.startDraining ∧ records = []) ∨
    (stream.phase = .draining ∧ stream.queue.take? = none ∧
      next = { stream with phase := .ended } ∧ records = []) := by
  unfold step? at stepped
  split at stepped
  · rename_i running
    split at stepped
    · cases stepped
      exact Or.inr (Or.inl ⟨running, rfl, rfl⟩)
    · split at stepped
      · rename_i record queue taken
        cases stepped
        exact Or.inl ⟨record, queue, by simp [running], taken, rfl, rfl⟩
      · split at stepped
        · cases stepped
          exact Or.inr (Or.inl ⟨running, rfl, rfl⟩)
        · cases stepped
  · rename_i draining
    split at stepped
    · rename_i record queue taken
      cases stepped
      exact Or.inl ⟨record, queue, by simp [draining], taken, rfl, rfl⟩
    · rename_i nothing
      cases stepped
      exact Or.inr (Or.inr ⟨draining, nothing, rfl, rfl⟩)
  · cases stepped

/-- How many steps the worker can take before it ends. -/
def remaining (stream : UsageStream) : Nat :=
  stream.queue.items.length + match stream.phase with
    | .running => 2
    | .draining => 1
    | .ended => 0

theorem remaining_lt_of_step? {stream next : UsageStream} {records : List UsageRecord}
    (stepped : stream.step? = some (next, records)) : next.remaining < stream.remaining := by
  rcases step?_cases stepped with
    ⟨record, queue, _, taken, rfl, _⟩ | ⟨running, rfl, _⟩ | ⟨draining, _, rfl, _⟩
  · have lengthEq := BoundedQueue.length_of_take? taken
    simp only [remaining]
    omega
  · simp [remaining, startDraining, BoundedQueue.close, running]
  · simp [remaining, draining]

/-- The stream after the worker has run until it waits or has ended, and the records that it has
handed on. -/
def run (stream : UsageStream) : UsageStream × List UsageRecord :=
  match _stepped : stream.step? with
  | none => (stream, [])
  | some (next, records) =>
    let (final, others) := run next
    (final, records ++ others)
termination_by stream.remaining
decreasing_by exact remaining_lt_of_step? ‹_›

theorem run_of_waits {stream : UsageStream} (waits : stream.step? = none) :
    stream.run = (stream, []) := by
  rw [run]
  split
  · rfl
  · simp_all

theorem run_of_step? {stream next : UsageStream} {records : List UsageRecord}
    (stepped : stream.step? = some (next, records)) :
    stream.run = (next.run.1, records ++ next.run.2) := by
  rw [run]
  split
  · simp_all
  · rename_i found
    rw [stepped, Option.some.injEq, Prod.mk.injEq] at found
    rcases found with ⟨rfl, rfl⟩
    rfl

end UsageStream

end Switchboard
