/-!
# Bounded queues

A queue takes items at its end as long as there is room and it is open, and gives them back from
its beginning. A closed queue takes nothing more, but what waits in it is still given back.
-/

namespace Switchboard

/-- Items that wait for their turn, the oldest first. -/
structure BoundedQueue (Item : Type) where
  capacity : Nat
  items : List Item := []
  closed : Bool := false
  deriving DecidableEq, Repr

namespace BoundedQueue

variable {Item : Type}

/-- Whether a queue takes another item. -/
def accepts (queue : BoundedQueue Item) : Bool :=
  !queue.closed && queue.items.length < queue.capacity

/-- The queue to which an item has been offered. An item that is not accepted is dropped. -/
def offer (queue : BoundedQueue Item) (item : Item) : BoundedQueue Item :=
  if queue.accepts then { queue with items := queue.items ++ [item] } else queue

/-- The oldest item, and the queue without it. -/
def take? (queue : BoundedQueue Item) : Option (Item × BoundedQueue Item) :=
  match queue.items with
  | [] => none
  | item :: rest => some (item, { queue with items := rest })

/-- The queue that takes nothing more. -/
def close (queue : BoundedQueue Item) : BoundedQueue Item :=
  { queue with closed := true }

theorem items_of_take? {queue rest : BoundedQueue Item} {item : Item}
    (taken : queue.take? = some (item, rest)) :
    queue.items = item :: rest.items ∧ rest = { queue with items := rest.items } := by
  unfold take? at taken
  split at taken
  · cases taken
  · rename_i itemsEq
    cases taken
    exact ⟨itemsEq, rfl⟩

theorem take?_eq_none_iff {queue : BoundedQueue Item} : queue.take? = none ↔ queue.items = [] := by
  unfold take?
  split <;> simp [*]

theorem length_of_take? {queue rest : BoundedQueue Item} {item : Item}
    (taken : queue.take? = some (item, rest)) :
    queue.items.length = rest.items.length + 1 := by
  rw [(items_of_take? taken).1, List.length_cons]

end BoundedQueue

end Switchboard
