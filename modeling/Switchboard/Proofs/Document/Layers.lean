import Mathlib.Data.List.Induction
import Switchboard.Document.Merge
import Switchboard.Proofs.Lookup

/-!
# Layers of documents

What a path leads to in documents that were merged is what the path leads to in each of them,
merged. So where no table ends up, the last of the layers in which the path leads anywhere decides
alone. This is so as long as the path meets tables in every layer: a layer that has something else
on the way takes away all that the layers before it have below.
-/

namespace Switchboard

namespace Entries

variable {entries additions : Entries} {key : String} {value : Document}

theorem lookup_insert (key other : String) (value : Document) (entries : Entries) :
    (insert key value entries).lookup other =
      if other = key then some value else entries.lookup other := by
  induction entries with
  | nil => simp [insert, lookup_cons_entry]
  | cons entry rest ih =>
    rcases entry with ⟨head, first⟩
    by_cases found : head = key
    · by_cases same : other = key <;> simp [insert, lookup_cons_entry, found, same]
    · by_cases same : other = head
      · simp [insert, found, same]
      · simp [insert, lookup_cons_entry, found, same, ih]

theorem map_fst_insert (key : String) (value : Document) (entries : Entries) :
    (insert key value entries).map Prod.fst =
      if key ∈ entries.map Prod.fst then entries.map Prod.fst
      else entries.map Prod.fst ++ [key] := by
  induction entries with
  | nil => simp [insert]
  | cons entry rest ih =>
    rcases entry with ⟨head, first⟩
    by_cases found : head = key
    · simp [insert, found]
    · by_cases later : key ∈ rest.map Prod.fst
      · simp [insert, found, ih, later]
      · simp [insert, found, ih, later, Ne.symm found]

theorem nodup_insert (key : String) (value : Document)
    (distinct : (entries.map Prod.fst).Nodup) :
    ((insert key value entries).map Prod.fst).Nodup := by
  rw [map_fst_insert]
  split
  · exact distinct
  · rename_i new
    rw [List.nodup_append]
    refine ⟨distinct, List.nodup_singleton key, ?_⟩
    intro other otherMem last lastMem same
    rw [List.mem_singleton] at lastMem
    exact new (lastMem ▸ same ▸ otherMem)

theorem mem_insert {entry : String × Document} (entryMem : entry ∈ insert key value entries) :
    entry = (key, value) ∨ entry ∈ entries := by
  induction entries with
  | nil => exact Or.inl (by simpa [insert] using entryMem)
  | cons first rest ih =>
    rw [insert] at entryMem
    split at entryMem
    · rcases List.mem_cons.mp entryMem with new | old
      · exact Or.inl new
      · exact Or.inr (List.mem_cons_of_mem _ old)
    · rcases List.mem_cons.mp entryMem with same | later
      · exact Or.inr (by simp [same])
      · rcases ih later with new | old
        · exact Or.inl new
        · exact Or.inr (List.mem_cons_of_mem _ old)

theorem mergeOne_eq (entries : Entries) (key : String) (value : Document) :
    mergeOne entries (key, value) =
      insert key ((entries.lookup key).elim value (·.merge value)) entries := by
  rw [mergeOne]
  cases entries.lookup key <;> rfl

theorem nodup_mergeAll (additions : Entries) (distinct : (entries.map Prod.fst).Nodup) :
    ((mergeAll entries additions).map Prod.fst).Nodup := by
  induction additions generalizing entries with
  | nil => exact distinct
  | cons addition rest ih =>
    rw [mergeAll, mergeOne_eq]
    apply ih
    exact nodup_insert _ _ distinct

/-- Under every key, merging tables merges what they have there. -/
theorem lookup_mergeAll (distinct : (additions.map Prod.fst).Nodup) (key : String) :
    (mergeAll entries additions).lookup key =
      Option.merge Document.merge (entries.lookup key) (additions.lookup key) := by
  induction additions generalizing entries with
  | nil => cases found : entries.lookup key <;> simp [mergeAll, found]
  | cons addition rest ih =>
    rcases addition with ⟨head, first⟩
    rw [List.map_cons, List.nodup_cons] at distinct
    rw [mergeAll, mergeOne_eq, ih distinct.2, lookup_insert, lookup_cons_entry]
    split
    · rename_i same
      subst same
      have absent : rest.lookup key = none := lookup_eq_none distinct.1
      rw [absent]
      cases entries.lookup key <;> rfl
    · rfl

/-- Merging does not touch an entry whose key it does not have. -/
theorem mergeAll_cons (absent : key ∉ additions.map Prod.fst) :
    mergeAll ((key, value) :: entries) additions = (key, value) :: mergeAll entries additions := by
  induction additions generalizing entries with
  | nil => rfl
  | cons addition rest ih =>
    rcases addition with ⟨head, new⟩
    simp only [List.map_cons, List.mem_cons, not_or] at absent
    have apart : mergeOne ((key, value) :: entries) (head, new) =
        (key, value) :: mergeOne entries (head, new) := by
      simp [mergeOne_eq, lookup_cons_entry, insert, absent.1, Ne.symm absent.1]
    simp [mergeAll, apart, ih absent.2]

theorem mergeAll_nil (distinct : (additions.map Prod.fst).Nodup) :
    mergeAll [] additions = additions := by
  induction additions with
  | nil => rfl
  | cons addition rest ih =>
    rcases addition with ⟨key, value⟩
    simp only [List.map_cons, List.nodup_cons] at distinct
    have first : mergeOne [] (key, value) = [(key, value)] := by
      simp [mergeOne_eq, insert]
    simp [mergeAll, first, mergeAll_cons distinct.1, ih distinct.2]

end Entries

namespace Document

variable {document old new base source : Document} {layers : List Document}
  {entries : Entries} {path : List String}

/-- Whether a document is a table. -/
def isTable : Document → Bool
  | table _ => true
  | _ => false

/-- What a path of keys leads to. -/
def at? (document : Document) : List String → Option Document
  | [] => some document
  | key :: rest =>
    match document with
    | table entries => (entries.lookup key).bind (·.at? rest)
    | _ => none

/-- What the last of some sources has at a path, the sources that have nothing there aside. -/
def settled (sources : List Document) (path : List String) : Option Document :=
  (sources.filterMap (·.at? path)).getLast?

@[simp]
theorem at?_nil (document : Document) : document.at? [] = some document := by
  cases document <;> rfl

@[simp]
theorem at?_table_cons (entries : Entries) (key : String) (rest : List String) :
    (table entries).at? (key :: rest) = (entries.lookup key).bind (·.at? rest) := rfl

/-- Only tables have anything below them. -/
theorem isTable_of_at?_cons {key : String} {rest : List String} {value : Document}
    (found : document.at? (key :: rest) = some value) : document.isTable = true := by
  cases document with
  | table entries => rfl
  | null | boolean | integer | float | text | array => cases found

theorem at?_append (document : Document) (front back : List String) :
    document.at? (front ++ back) = (document.at? front).bind (·.at? back) := by
  induction front generalizing document with
  | nil => simp
  | cons key rest ih =>
    cases document with
    | table entries => cases found : entries.lookup key <;> simp [found, ih]
    | null | boolean | integer | float | text | array => rfl

theorem merge_table (entries additions : Entries) :
    (table entries).merge (table additions) = table (Entries.mergeAll entries additions) := by
  rw [merge]

/-- What is no table takes the place of what it is merged into. -/
theorem merge_of_isTable_eq_false (flat : new.isTable = false) : old.merge new = new := by
  cases new with
  | table additions => cases flat
  | null | boolean | integer | float | text | array => rw [merge]; simp

/-- What is no table is replaced by what is merged into it. -/
theorem merge_into_flat (flat : old.isTable = false) (new : Document) : old.merge new = new := by
  cases old with
  | table entries => cases flat
  | null | boolean | integer | float | text | array => cases new <;> rw [merge] <;> simp

@[simp]
theorem merge_boolean (old : Document) (value : Bool) : old.merge (boolean value) = boolean value :=
  merge_of_isTable_eq_false rfl

@[simp]
theorem merge_integer (old : Document) (value : Int) : old.merge (integer value) = integer value :=
  merge_of_isTable_eq_false rfl

@[simp]
theorem merge_array (old : Document) (items : List Document) :
    old.merge (array items) = array items :=
  merge_of_isTable_eq_false rfl

theorem isTable_merge (old new : Document) : (old.merge new).isTable = new.isTable := by
  cases new with
  | table additions => cases old <;> rw [merge] <;> first | rfl | simp
  | null | boolean | integer | float | text | array => rw [merge]; simp

/-- Every key of a path is looked for in a table, and the keys of that table are distinct. -/
inductive TablesAlong : List String → Document → Prop where
  | done (document : Document) : TablesAlong [] document
  | through {key : String} {rest : List String} {entries : Entries}
      (distinct : (entries.map Prod.fst).Nodup)
      (inner : ∀ value, entries.lookup key = some value → TablesAlong rest value) :
      TablesAlong (key :: rest) (table entries)

theorem tablesAlong_table_nil (path : List String) : TablesAlong path (table []) := by
  cases path with
  | nil => exact .done _
  | cons key rest => exact .through List.nodup_nil fun value found => by cases found

theorem TablesAlong.inner {key : String} {rest : List String} {value : Document}
    (along : TablesAlong (key :: rest) (table entries)) (found : entries.lookup key = some value) :
    TablesAlong rest value := by
  cases along with
  | through _ inner => exact inner value found

/-- At a path, merging documents merges what they have there. -/
theorem at?_merge (oldAlong : TablesAlong path old) (newAlong : TablesAlong path new) :
    (old.merge new).at? path = Option.merge merge (old.at? path) (new.at? path) := by
  -- Down the path, both documents are tables until one of them ends.
  induction path generalizing old new with
  | nil => simp
  | cons key rest ih =>
    cases oldAlong with
    | @through _ _ entries _ oldInner =>
      cases newAlong with
      | @through _ _ additions newDistinct newInner =>
        rw [merge_table, at?_table_cons, Entries.lookup_mergeAll newDistinct]
        cases held : entries.lookup key with
        | none => cases added : additions.lookup key <;> simp [held, added]
        | some existing =>
          cases added : additions.lookup key with
          | none => simp [held, added]
          | some value =>
            simpa [held, added] using ih (oldInner existing held) (newInner value added)

/-- Merging leaves no path that meets anything but tables. -/
theorem TablesAlong.merge (oldAlong : TablesAlong path old) (newAlong : TablesAlong path new) :
    TablesAlong path (old.merge new) := by
  induction path generalizing old new with
  | nil => exact .done _
  | cons key rest ih =>
    cases oldAlong with
    | @through _ _ entries oldDistinct oldInner =>
      cases newAlong with
      | @through _ _ additions newDistinct newInner =>
        rw [merge_table]
        refine .through (Entries.nodup_mergeAll _ oldDistinct) ?_
        intro value found
        rw [Entries.lookup_mergeAll newDistinct] at found
        cases held : entries.lookup key with
        | none =>
          rw [held, Option.merge_none_left] at found
          exact newInner value found
        | some existing =>
          cases added : additions.lookup key with
          | none =>
            rw [held, added, Option.merge_none_right, Option.some.injEq] at found
            exact found ▸ oldInner existing held
          | some addition =>
            rw [held, added, Option.merge_some_some, Option.some.injEq] at found
            exact found ▸ ih (oldInner existing held) (newInner addition added)

theorem mergeList_concat (base last : Document) (layers : List Document) :
    base.mergeList (layers ++ [last]) = (base.mergeList layers).merge last := by
  simp [mergeList]

theorem TablesAlong.mergeList (baseAlong : TablesAlong path base)
    (along : ∀ layer ∈ layers, TablesAlong path layer) :
    TablesAlong path (base.mergeList layers) := by
  induction layers using List.reverseRecOn with
  | nil => exact baseAlong
  | append_singleton front last ih =>
    rw [mergeList_concat]
    refine (ih ?_).merge (along last (by simp))
    intro layer layerMem
    exact along layer (List.mem_append_left [last] layerMem)

theorem isTable_mergeList (baseTable : base.isTable = true)
    (tables : ∀ layer ∈ layers, layer.isTable = true) :
    (base.mergeList layers).isTable = true := by
  induction layers using List.reverseRecOn with
  | nil => exact baseTable
  | append_singleton front last _ =>
    rw [mergeList_concat, isTable_merge]
    exact tables last (by simp)

theorem settled_concat_of_none {sources : List Document} (absent : source.at? path = none) :
    settled (sources ++ [source]) path = settled sources path := by
  simp [settled, absent]

theorem settled_concat_of_some {sources : List Document} {value : Document}
    (found : source.at? path = some value) : settled (sources ++ [source]) path = some value := by
  simp [settled, found]

theorem settled_append (front back : List Document) (path : List String) :
    settled (front ++ back) path = (settled back path).or (settled front path) := by
  rw [settled, List.filterMap_append, List.getLast?_append]
  rfl

theorem settled_cons (source : Document) (sources : List Document) (path : List String) :
    settled (source :: sources) path = (settled sources path).or (source.at? path) := by
  rw [← List.singleton_append, settled_append]
  cases found : source.at? path <;> simp [settled, found]

/-- Some source decides exactly where some source has anything. -/
theorem isSome_settled {sources : List Document} :
    (settled sources path).isSome ↔ ∃ source ∈ sources, (source.at? path).isSome := by
  induction sources with
  | nil => simp [settled]
  | cons source rest ih =>
    rw [settled_cons, Option.isSome_or, Bool.or_eq_true, ih, List.exists_mem_cons_iff, or_comm]

/-- What all layers have at a path is of a kind if merging keeps that kind. -/
theorem forall_at?_mergeList (holds : Document → Prop)
    (kept : ∀ old new, holds old → holds new → holds (old.merge new))
    (baseAlong : TablesAlong path base) (along : ∀ layer ∈ layers, TablesAlong path layer)
    (all : ∀ layer ∈ base :: layers, ∀ value, layer.at? path = some value → holds value) :
    ∀ value, (base.mergeList layers).at? path = some value → holds value := by
  induction layers using List.reverseRecOn with
  | nil => exact all base List.mem_cons_self
  | append_singleton front last ih =>
    intro value found
    have frontAlong : ∀ layer ∈ front, TablesAlong path layer := by
      intro layer layerMem
      exact along layer (List.mem_append_left [last] layerMem)
    have frontHolds := ih frontAlong fun layer layerMem => all layer (by
      rw [← List.cons_append]
      exact List.mem_append_left [last] layerMem)
    rw [mergeList_concat,
      at?_merge (baseAlong.mergeList frontAlong) (along last (by simp))] at found
    cases before : (base.mergeList front).at? path with
    | none =>
      rw [before, Option.merge_none_left] at found
      exact all last (by simp) value found
    | some existing =>
      cases added : last.at? path with
      | none =>
        rw [before, added, Option.merge_none_right, Option.some.injEq] at found
        exact found ▸ frontHolds existing before
      | some addition =>
        rw [before, added, Option.merge_some_some, Option.some.injEq] at found
        exact found ▸ kept existing addition (frontHolds existing before)
          (all last (by simp) addition added)

/-- Where merged layers have no table, they have what the last layer has that has anything. -/
theorem at?_mergeList (baseAlong : TablesAlong path base)
    (along : ∀ layer ∈ layers, TablesAlong path layer)
    (flat : ∀ value, (base.mergeList layers).at? path = some value → value.isTable = false) :
    (base.mergeList layers).at? path = settled (base :: layers) path := by
  induction layers using List.reverseRecOn with
  | nil => cases found : base.at? path <;> simp [mergeList, settled, found]
  | append_singleton front last ih =>
    have frontAlong : ∀ layer ∈ front, TablesAlong path layer := by
      intro layer layerMem
      exact along layer (List.mem_append_left [last] layerMem)
    have mergedEq := at?_merge (baseAlong.mergeList frontAlong) (along last (by simp))
    rw [mergeList_concat] at flat ⊢
    rw [← List.cons_append]
    cases found : last.at? path with
    | none =>
      rw [found, Option.merge_none_right] at mergedEq
      rw [mergedEq] at flat ⊢
      rw [ih frontAlong flat, settled_concat_of_none found]
    | some value =>
      -- The last layer decides. Were it a table, so would be what comes out.
      rw [settled_concat_of_some found, mergedEq, found]
      rw [mergedEq, found] at flat
      cases before : (base.mergeList front).at? path with
      | none => rfl
      | some existing =>
        have valueFlat := flat (existing.merge value) (by rw [before, Option.merge_some_some])
        rw [isTable_merge] at valueFlat
        rw [Option.merge_some_some, merge_of_isTable_eq_false valueFlat]

end Document

end Switchboard
