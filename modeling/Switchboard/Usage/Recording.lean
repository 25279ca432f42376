import Switchboard.Usage.Sink
import Switchboard.Usage.Stream

/-!
# Recording of usage

A stream of records together with the sink that it leads to.
-/

namespace Switchboard

/-- A stream of records with its sink and the state of the sink. -/
structure UsageRecording (State : Type) where
  stream : UsageStream
  sink : UsageSink State
  state : State

namespace UsageRecording

variable {State : Type}

/-- The recording into a sink through a queue of a given capacity. -/
def start (capacity : Nat) (sink : UsageSink State) (state : State) : UsageRecording State :=
  ⟨.ofCapacity capacity, sink, state⟩

/-- The recording whose worker has run until it waits or has ended, and what is logged
meanwhile. -/
def run (recording : UsageRecording State) : UsageRecording State × List LogEntry :=
  let (stream, records) := recording.stream.run
  let (state, entries) := recording.sink.receiveAll recording.state records
  ({ recording with stream := stream, state := state }, entries)

end UsageRecording

end Switchboard
