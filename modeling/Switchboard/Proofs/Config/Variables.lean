import Switchboard.Config.Environment
import Switchboard.Proofs.Document.Tidy

/-!
# What environment variables describe is tidy

A variable puts its value at a path of at least one key, so all of them together describe a table.
-/

namespace Switchboard.Environment

open Document (ReadsTidy)

theorem tidy_readPlain (text : List Char) : (readPlain text).Tidy := by
  simp only [readPlain]
  split
  · exact .float _
  · split
    · exact .integer _
    · split
      · exact .integer _
      · exact .text _

/-- What holds of every item that a reader reads holds of all items of a list. -/
theorem forall_of_readItems? {α : Type} {holds : α → Prop}
    {readOne : List Char → Option (α × List Char)}
    (reads : ∀ text item rest, readOne text = some (item, rest) → holds item) {close : Char}
    {steps : Nat} {text rest : List Char} {items : List α}
    (read : readItems? readOne close steps text = some (items, rest)) :
    ∀ item ∈ items, holds item := by
  induction steps generalizing text rest items with
  | zero => cases read
  | succ steps ih =>
    cases text with
    | nil => cases read
    | cons first left =>
      rw [readItems?] at read
      split at read
      · cases read
        simp
      · rcases Option.bind_eq_some_iff.mp read with ⟨⟨item, after⟩, itemEq, read⟩
        have itemHolds := reads _ _ _ itemEq
        dsimp only at read
        split at read
        · cases read
        · split at read
          · rcases Option.bind_eq_some_iff.mp read with ⟨⟨others, _⟩, othersEq, read⟩
            cases read
            rw [List.forall_mem_cons]
            exact ⟨itemHolds, ih othersEq⟩
          · split at read
            · cases read
              rw [List.forall_mem_singleton]
              exact itemHolds
            · cases read

theorem tidy_readPair? {readOne : List Char → Option (Document × List Char)}
    (reads : ReadsTidy readOne) (text : List Char) (entry : String × Document) (rest : List Char)
    (read : readPair? readOne text = some (entry, rest)) : entry.2.Tidy := by
  rcases Option.bind_eq_some_iff.mp read with ⟨⟨key, after⟩, _, read⟩
  dsimp only at read
  split at read
  · rcases Option.bind_eq_some_iff.mp read with ⟨⟨value, left⟩, valueEq, read⟩
    cases read
    exact reads _ _ _ valueEq
  · cases read

theorem tidy_foldl_insert {entries start : Entries} (startTidy : (Document.table start).Tidy)
    (valuesTidy : ∀ entry ∈ entries, entry.2.Tidy) :
    (Document.table (entries.foldl (fun (table : Entries) (key, value) =>
      table.insert key value) start)).Tidy := by
  induction entries generalizing start with
  | nil => exact startTidy
  | cons entry rest ih =>
    rw [List.forall_mem_cons] at valuesTidy
    exact ih (startTidy.insert entry.1 valuesTidy.1) valuesTidy.2

theorem readsTidy_readValue? (levels : Nat) : ReadsTidy (readValue? levels) := by
  induction levels with
  | zero =>
    intro text document rest read
    cases read
  | succ levels ih =>
    intro text document rest read
    rw [readValue?] at read
    split at read
    · cases read
      exact .boolean true
    · cases read
      exact .boolean false
    · rcases Option.bind_eq_some_iff.mp read with ⟨⟨entries, left⟩, entriesEq, same⟩
      cases same
      exact tidy_foldl_insert Document.tidy_table_nil
        (forall_of_readItems? (tidy_readPair? ih) entriesEq)
    · rcases Option.bind_eq_some_iff.mp read with ⟨⟨items, left⟩, _, same⟩
      cases same
      exact .array items
    · rcases Option.bind_eq_some_iff.mp read with ⟨⟨content, left⟩, _, same⟩
      cases same
      exact .text content
    · cases read
      exact .text _
    · cases read
    · cases read
      exact tidy_readPlain _

theorem tidy_readVariable (value : String) : (readVariable value).Tidy := by
  rw [readVariable]
  split
  · rename_i document found
    exact readsTidy_readValue? _ _ _ _ found
  · exact .text value

theorem partsBetween_ne_nil (mark text : List Char) : partsBetween mark text ≠ [] := by
  have somePart (steps : Nat) (pending rest : List Char) :
      partsBetween.go mark steps pending rest ≠ [] := by
    induction rest generalizing steps pending with
    | nil => simp [partsBetween.go]
    | cons character rest ih =>
      cases steps with
      | zero => simp [partsBetween.go]
      | succ steps =>
        rw [partsBetween.go]
        split
        · simp
        · exact ih steps (character :: pending)
  exact somePart text.length [] text

theorem ne_nil_of_namePath? {name : String} {path : List String}
    (named : namePath? name = some path) : path ≠ [] := by
  rcases Option.bind_eq_some_iff.mp named with ⟨rest, _, named⟩
  dsimp only at named
  split at named
  · cases named
  · cases named
    rcases List.exists_mem_of_ne_nil _ (partsBetween_ne_nil ['_', '_'] (trim rest)) with
      ⟨part, partMem⟩
    rcases List.exists_mem_of_ne_nil _ (partsBetween_ne_nil ['.'] part) with ⟨key, keyMem⟩
    have keyAmong := List.mem_flatMap.mpr ⟨part, partMem, keyMem⟩
    intro empty
    rw [List.map_eq_nil_iff] at empty
    exact List.not_mem_nil (empty ▸ keyAmong)

theorem tidy_nest {value : Document} (valueTidy : value.Tidy) (path : List String) :
    (nest value path).Tidy := by
  induction path with
  | nil => exact valueTidy
  | cons key rest ih =>
    refine .table (List.nodup_singleton key) ?_
    rw [List.forall_mem_singleton]
    exact ih

/-- What the variables describe is a tidy table. -/
theorem tidy_document (environment : List (String × String)) :
    (document environment).Tidy ∧ (document environment).isTable = true := by
  have layerTidy {name value : String} {layer : Document}
      (layerEq : (namePath? name).map (nest (readVariable value)) = some layer) :
      layer.Tidy ∧ layer.isTable = true := by
    rcases Option.map_eq_some_iff.mp layerEq with ⟨path, pathEq, rfl⟩
    refine ⟨tidy_nest (tidy_readVariable value) path, ?_⟩
    cases path with
    | nil => exact absurd rfl (ne_nil_of_namePath? pathEq)
    | cons key rest => rfl
  rw [document]
  constructor
  · apply Document.tidy_table_nil.mergeList
    intro layer layerMem
    rcases List.mem_filterMap.mp layerMem with ⟨⟨name, value⟩, _, layerEq⟩
    exact (layerTidy layerEq).1
  · apply Document.isTable_mergeList rfl
    intro layer layerMem
    rcases List.mem_filterMap.mp layerMem with ⟨⟨name, value⟩, _, layerEq⟩
    exact (layerTidy layerEq).2

end Switchboard.Environment
