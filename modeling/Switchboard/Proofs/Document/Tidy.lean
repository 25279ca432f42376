import Switchboard.Proofs.Document.Layers

/-!
# Tidy documents

Files and environment variables describe tidy documents: the keys of a table are distinct, and no
value is missing. What stands in an array does not matter, since nothing is merged into it.
-/

namespace Switchboard

namespace Document

variable {document old new value : Document} {entries additions : Entries} {path : List String}

/-- The keys of every table are distinct and have values. -/
inductive Tidy : Document → Prop where
  | boolean (value : Bool) : Tidy (.boolean value)
  | integer (value : Int) : Tidy (.integer value)
  | float (value : Float) : Tidy (.float value)
  | text (value : String) : Tidy (.text value)
  | array (items : List Document) : Tidy (.array items)
  | table {entries : Entries} (distinct : (entries.map Prod.fst).Nodup)
      (inner : ∀ entry ∈ entries, Tidy entry.2) : Tidy (.table entries)

/-- A reader whose documents are tidy. -/
def ReadsTidy (read? : List Char → Option (Document × List Char)) : Prop :=
  ∀ text document rest, read? text = some (document, rest) → document.Tidy

theorem tidy_table_nil : Tidy (.table []) :=
  .table List.nodup_nil (by simp)

theorem Tidy.of_lookup {key : String} (tidy : Tidy (.table entries))
    (found : entries.lookup key = some value) : value.Tidy := by
  cases tidy with
  | table distinct inner => exact inner (key, value) (mem_of_lookup found)

theorem Tidy.insert (tidy : Tidy (.table entries)) (key : String) (valueTidy : value.Tidy) :
    Tidy (.table (Entries.insert key value entries)) := by
  cases tidy with
  | table distinct inner =>
    refine .table (Entries.nodup_insert key value distinct) ?_
    intro entry entryMem
    rcases Entries.mem_insert entryMem with rfl | old
    · exact valueTidy
    · exact inner entry old

theorem tidy_mergeAll (tidy : Tidy (.table entries))
    (merges : ∀ addition ∈ additions, addition.2.Tidy ∧
      ∀ existing : Document, existing.Tidy → (existing.merge addition.2).Tidy) :
    Tidy (.table (Entries.mergeAll entries additions)) := by
  induction additions generalizing entries with
  | nil => exact tidy
  | cons addition rest ih =>
    rcases addition with ⟨key, value⟩
    rcases merges (key, value) List.mem_cons_self with ⟨valueTidy, mergedTidy⟩
    rw [Entries.mergeAll, Entries.mergeOne_eq]
    apply ih
    · apply tidy.insert
      cases held : entries.lookup key with
      | none => exact valueTidy
      | some existing => exact mergedTidy existing (tidy.of_lookup held)
    · intro later laterMem
      exact merges later (List.mem_cons_of_mem _ laterMem)

theorem Tidy.merge (oldTidy : old.Tidy) (newTidy : new.Tidy) : (old.merge new).Tidy := by
  induction newTidy generalizing old with
  | table distinct inner ih =>
    cases oldTidy with
    | table oldDistinct oldInner =>
      rw [merge_table]
      apply tidy_mergeAll (.table oldDistinct oldInner)
      intro addition additionMem
      exact ⟨inner addition additionMem, fun existing => ih addition additionMem⟩
    | boolean | integer | float | text | array =>
      rw [Document.merge] <;> simp [Tidy.table distinct inner]
  | boolean | integer | float | text | array => rw [Document.merge] <;> first | constructor | simp

/-- What is merged into an empty table stays as it is. -/
theorem Tidy.table_nil_merge (tidy : document.Tidy) :
    (Document.table []).merge document = document := by
  cases tidy with
  | table distinct _ => simp [merge_table, Entries.mergeAll_nil distinct]
  | boolean | integer | float | text | array => exact merge_of_isTable_eq_false rfl

theorem Tidy.exists_table (tidy : document.Tidy) (whole : document.isTable = true) :
    ∃ entries : Entries, (entries.map Prod.fst).Nodup ∧ document = Document.table entries := by
  cases tidy with
  | table distinct _ => exact ⟨_, distinct, rfl⟩
  | boolean | integer | float | text | array => cases whole

theorem Tidy.mergeList {layers : List Document} (baseTidy : document.Tidy)
    (layersTidy : ∀ layer ∈ layers, layer.Tidy) : (document.mergeList layers).Tidy := by
  induction layers using List.reverseRecOn with
  | nil => exact baseTidy
  | append_singleton front last ih =>
    rw [mergeList_concat]
    refine (ih ?_).merge (layersTidy last (by simp))
    intro layer layerMem
    exact layersTidy layer (List.mem_append_left [last] layerMem)

theorem Tidy.at? (tidy : document.Tidy) (found : document.at? path = some value) : value.Tidy := by
  induction path generalizing document with
  | nil =>
    rw [at?_nil, Option.some.injEq] at found
    exact found ▸ tidy
  | cons key rest ih =>
    cases document with
    | table entries =>
      rcases Option.bind_eq_some_iff.mp found with ⟨inner, innerEq, onward⟩
      exact ih (tidy.of_lookup innerEq) onward
    | null | boolean | integer | float | text | array => cases found

/-- A path meets only tables in a tidy document that has nothing else on the way. -/
theorem Tidy.tablesAlong (tidy : document.Tidy)
    (tables : ∀ front back, front ++ back = path → back ≠ [] →
      ∀ value, document.at? front = some value → value.isTable = true) :
    TablesAlong path document := by
  induction path generalizing document with
  | nil => exact .done document
  | cons key rest ih =>
    have whole := tables [] (key :: rest) rfl (by simp) document (at?_nil document)
    cases tidy with
    | table distinct inner =>
      refine .through distinct ?_
      intro value found
      apply ih (inner (key, value) (mem_of_lookup found))
      intro front back same nonempty below belowEq
      apply tables (key :: front) back (by rw [← same]; rfl) nonempty
      rw [at?_table_cons, found]
      exact belowEq
    | boolean | integer | float | text | array => cases whole

end Document

end Switchboard
