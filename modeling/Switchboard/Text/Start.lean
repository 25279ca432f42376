/-!
# The start of a text

Taking a given start away from a text, and finding a text inside another one.
-/

namespace Switchboard

/-- What follows a given start of a text. -/
def dropStart? : List Char → List Char → Option (List Char)
  | [], text => some text
  | _ :: _, [] => none
  | expected :: others, character :: rest =>
    if character = expected then dropStart? others rest else none

theorem dropStart?_eq_some_iff {start text remaining : List Char} :
    dropStart? start text = some remaining ↔ text = start ++ remaining := by
  induction start generalizing text with
  | nil => simp [dropStart?]
  | cons expected others ih =>
    cases text with
    | nil => simp [dropStart?]
    | cons character rest =>
      by_cases same : character = expected <;> simp [dropStart?, same, ih]

/-- Whether a text occurs inside another one. The empty text occurs everywhere. -/
def occursIn (part : List Char) : List Char → Bool
  | [] => part.isEmpty
  | character :: rest => (dropStart? part (character :: rest)).isSome || occursIn part rest

end Switchboard
