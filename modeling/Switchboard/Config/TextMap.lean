/-!
# Maps from texts to texts

A map is kept as a list of entries in ascending order of the keys, so two maps with the same
entries are equal.
-/

namespace Switchboard

/-- Texts by key, in ascending order of the keys. -/
structure TextMap where
  entries : List (String × String)
  ordered : entries.Pairwise fun left right => left.1 < right.1
  deriving DecidableEq

namespace TextMap

/-- The map without entries. -/
def empty : TextMap :=
  ⟨[], .nil⟩

/-- Ordered entries with one more, which takes the place of an entry of the same key. -/
def insertEntry (key value : String) : List (String × String) → List (String × String)
  | [] => [(key, value)]
  | (other, existing) :: rest =>
    if key < other then
      (key, value) :: (other, existing) :: rest
    else if key = other then
      (key, value) :: rest
    else
      (other, existing) :: insertEntry key value rest

theorem mem_insertEntry {key value : String} {entries : List (String × String)}
    {entry : String × String} (present : entry ∈ insertEntry key value entries) :
    entry = (key, value) ∨ entry ∈ entries := by
  induction entries with
  | nil => simpa [insertEntry] using present
  | cons first rest ih =>
    obtain ⟨other, existing⟩ := first
    simp only [insertEntry] at present
    split at present
    · simpa using present
    · split at present
      · simp only [List.mem_cons] at present ⊢
        rcases present with new | old
        · exact Or.inl new
        · exact Or.inr (Or.inr old)
      · simp only [List.mem_cons] at present ⊢
        rcases present with same | old
        · exact Or.inr (Or.inl same)
        · rcases ih old with new | old
          · exact Or.inl new
          · exact Or.inr (Or.inr old)

theorem ordered_insertEntry (key value : String) {entries : List (String × String)}
    (ordered : entries.Pairwise fun left right => left.1 < right.1) :
    (insertEntry key value entries).Pairwise fun left right => left.1 < right.1 := by
  induction entries with
  | nil => simp [insertEntry]
  | cons first rest ih =>
    obtain ⟨other, existing⟩ := first
    obtain ⟨above, tail⟩ := List.pairwise_cons.mp ordered
    simp only [insertEntry]
    split
    · rename_i before
      refine List.pairwise_cons.mpr ⟨?_, ordered⟩
      intro entry present
      rcases List.mem_cons.mp present with same | later
      · subst same
        exact before
      · exact String.lt_trans before (above entry later)
    · rename_i notBefore
      split
      · rename_i same
        subst same
        exact List.pairwise_cons.mpr ⟨above, tail⟩
      · rename_i different
        refine List.pairwise_cons.mpr ⟨?_, ih tail⟩
        intro entry present
        rcases mem_insertEntry present with new | old
        · subst new
          exact Decidable.byContradiction fun notAfter => different
            (String.le_antisymm (String.not_lt.mp notAfter) (String.not_lt.mp notBefore))
        · exact above entry old

/-- The map with an entry, which takes the place of an entry of the same key. -/
def insert (map : TextMap) (key value : String) : TextMap :=
  ⟨insertEntry key value map.entries, ordered_insertEntry key value map.ordered⟩

/-- The map of a list of entries, in which later ones go before earlier ones of the same key. -/
def ofList (entries : List (String × String)) : TextMap :=
  entries.foldl (fun map (key, value) => map.insert key value) empty

instance : Inhabited TextMap :=
  ⟨empty⟩

end TextMap

end Switchboard
