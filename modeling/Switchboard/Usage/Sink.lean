import Switchboard.Log
import Switchboard.Message

/-!
# Sinks of usage records

A sink is where usage records end up. It has a state of its own, may log something for a record,
and may refuse it. A refusal is logged and has no other consequence.
-/

namespace Switchboard

/-- The reason for which a record has not been stored. -/
structure StoreFailure where
  reason : String
  deriving DecidableEq, Repr

namespace StoreFailure

/-- The wording of a failure. -/
def message (failure : StoreFailure) : String :=
  "failed to store usage record: " ++ failure.reason

/-- The log entry of a failure. -/
def entry (failure : StoreFailure) : LogEntry :=
  ⟨"Usage sink rejected a record", [("error", .text failure.message)]⟩

end StoreFailure

/-- What comes of an attempt to store a record. -/
structure StoreResult (State : Type) where
  state : State
  entries : List LogEntry := []
  failure : Option StoreFailure := none

/-- A destination of usage records. -/
structure UsageSink (State : Type) where
  store : State → UsageRecord → StoreResult State

namespace UsageSink

variable {State : Type}

/-- The state after an attempt to store a record, and what is logged of it. -/
def receive (sink : UsageSink State) (state : State) (record : UsageRecord) :
    State × List LogEntry :=
  let result := sink.store state record
  (result.state, result.entries ++ result.failure.toList.map StoreFailure.entry)

/-- The state after attempts to store every record of a list, and what is logged of them. -/
def receiveAll (sink : UsageSink State) (state : State) :
    List UsageRecord → State × List LogEntry
  | [] => (state, [])
  | record :: rest =>
    let (next, entries) := sink.receive state record
    let (final, others) := receiveAll sink next rest
    (final, entries ++ others)

/-- The sink that keeps every record, in order. -/
def memory : UsageSink (List UsageRecord) where
  store records record := { state := records ++ [record] }

/-- The sink that stores nothing and counts the attempts. -/
def failing (reason : String) : UsageSink Nat where
  store attempts _ := { state := attempts + 1, failure := some ⟨reason⟩ }

/-- The sink that logs every record. -/
def log : UsageSink Unit where
  store state record :=
    let feature := record.feature.toList.map fun feature => ("feature", LogField.text feature.key)
    { state := state
      entries := [⟨"Command used", feature ++
        [("channel_id", .text record.channelId), ("user_id", .text record.userId)]⟩] }

end UsageSink

end Switchboard
