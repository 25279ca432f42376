import Mathlib.Data.List.Nodup

/-!
# Lists of entries as finite maps

Nodes of a tree, memories, documents and maps of texts keep what they know in lists of entries, in
which the first entry of a key counts. Keys are texts or, for the handlers of a node, numbers.
-/

namespace Switchboard

variable {Key Value Other : Type} [BEq Key] [LawfulBEq Key] {key : Key} {value : Value}
  {entries : List (Key × Value)}

theorem mem_of_lookup (found : entries.lookup key = some value) : (key, value) ∈ entries := by
  rcases List.lookup_eq_some_iff.mp found with ⟨before, after, rfl, _⟩
  exact List.mem_append_right before List.mem_cons_self

theorem lookup_eq_none (absent : key ∉ entries.map Prod.fst) : entries.lookup key = none := by
  cases found : entries.lookup key with
  | none => rfl
  | some value =>
    have keyMem := List.mem_map_of_mem (f := Prod.fst) (mem_of_lookup found)
    exact absurd keyMem absent

variable [DecidableEq Key]

theorem lookup_cons_entry (key head : Key) (value : Value) (rest : List (Key × Value)) :
    ((head, value) :: rest).lookup key = if key = head then some value else rest.lookup key := by
  by_cases same : key = head
  · simp [same]
  · have different : (key == head) = false := by simpa using same
    simp [List.lookup_cons, same, different]

/-- Where keys are distinct, every entry counts. -/
theorem lookup_of_mem (distinct : (entries.map Prod.fst).Nodup)
    (entryMem : (key, value) ∈ entries) : entries.lookup key = some value := by
  induction entries with
  | nil => cases entryMem
  | cons entry rest ih =>
    rcases entry with ⟨head, first⟩
    rw [List.map_cons, List.nodup_cons] at distinct
    rcases List.mem_cons.mp entryMem with same | later
    · rw [Prod.mk.injEq] at same
      rw [lookup_cons_entry, if_pos same.1, same.2]
    · have different : key ≠ head := by
        rintro rfl
        exact distinct.1 (List.mem_map.mpr ⟨(key, value), later, rfl⟩)
      rw [lookup_cons_entry, if_neg different]
      exact ih distinct.2 later

theorem lookup_map (change : Value → Other) (key : Key) (entries : List (Key × Value)) :
    (entries.map fun (name, value) => (name, change value)).lookup key =
      (entries.lookup key).map change := by
  induction entries with
  | nil => rfl
  | cons entry rest ih =>
    rw [List.map_cons, lookup_cons_entry, lookup_cons_entry, ih]
    split <;> rfl

/-- Entries that are left out because of their keys are missed under these keys only. -/
theorem lookup_filter (stays : Key → Bool) (wanted : stays key = true)
    (entries : List (Key × Value)) :
    (entries.filter fun (name, _) => stays name).lookup key = entries.lookup key := by
  induction entries with
  | nil => rfl
  | cons entry rest ih =>
    rcases entry with ⟨head, first⟩
    cases staysEq : stays head with
    | true => simp [lookup_cons_entry, staysEq, ih]
    | false =>
      have different : key ≠ head := by
        rintro rfl
        simp [wanted] at staysEq
      simp [lookup_cons_entry, staysEq, different, ih]

end Switchboard
