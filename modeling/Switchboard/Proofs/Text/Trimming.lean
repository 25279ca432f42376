import Mathlib.Data.List.DropRight
import Switchboard.Text.Blank

/-!
# Trimmed texts

Trimming takes blank characters from both ends of a text and nothing else. A text is trimmed if no
blank character stands at either end of it.
-/

namespace Switchboard

theorem trimStart_eq_self_iff {text : List Char} :
    trimStart text = text ↔ text.head?.map isBlank ≠ some true := by
  cases text with
  | nil => simp [trimStart]
  | cons character rest =>
    rw [trimStart, List.dropWhile_eq_self_iff]
    simp

theorem trimEnd_eq_self_iff {text : List Char} :
    trimEnd text = text ↔ text.getLast?.map isBlank ≠ some true := by
  have endsIff : trimEnd text = text ↔ ∀ filled : text ≠ [], ¬isBlank (text.getLast filled) :=
    List.rdropWhile_eq_self_iff
  rw [endsIff]
  by_cases empty : text = []
  · simp [empty]
  · simp [empty, List.getLast?_eq_some_getLast]

theorem trimStart_trim (text : List Char) : trimStart (trim text) = trim text := by
  apply List.dropWhile_eq_self_iff.mpr
  intro filled
  have front : trim text <+: trimStart text := List.rdropWhile_prefix isBlank _
  have longer : 0 < (trimStart text).length := Nat.lt_of_lt_of_le filled front.length_le
  rw [front.getElem filled]
  exact List.dropWhile_get_zero_not isBlank text longer

theorem trimEnd_trim (text : List Char) : trimEnd (trim text) = trim text :=
  List.rdropWhile_idempotent isBlank (trimStart text)

theorem trim_trim (text : List Char) : trim (trim text) = trim text := by
  calc
    trim (trim text)
    _ = trimEnd (trim text) := by rw [trim, trimStart_trim]
    _ = trim text := trimEnd_trim text

theorem mem_of_mem_trim {text : List Char} {character : Char} (present : character ∈ trim text) :
    character ∈ text := by
  have front : trim text <+: trimStart text := List.rdropWhile_prefix isBlank _
  apply (List.dropWhile_sublist isBlank).mem
  exact front.mem present

theorem trim_eq_self_iff {text : List Char} :
    trim text = text ↔
      text.head?.map isBlank ≠ some true ∧ text.getLast?.map isBlank ≠ some true := by
  rw [← trimStart_eq_self_iff, ← trimEnd_eq_self_iff]
  constructor
  · intro trimmed
    have started := trimStart_trim text
    have ended := trimEnd_trim text
    rw [trimmed] at started ended
    exact ⟨started, ended⟩
  · rintro ⟨started, ended⟩
    rw [trim, started, ended]

end Switchboard
