import Switchboard.Proofs.Document.Tidy
import Switchboard.Toml.Reader

/-!
# What files describe is tidy

Every step that builds a table puts an item under one key, and an item that it puts there is tidy
itself. Tables of a table array end up in an array, where they need not be.
-/

namespace Switchboard.Toml

namespace Items

variable {entries result : Items} {key : String} {item : Item}

/-- Entries that make a tidy table. -/
def Tidy (entries : Items) : Prop :=
  (Document.table (Item.entriesToDocument entries)).Tidy

theorem entriesToDocument_eq_map (entries : Items) :
    Item.entriesToDocument entries = entries.map fun (key, item) => (key, item.toDocument) := by
  induction entries with
  | nil => rfl
  | cons entry rest ih => rw [Item.entriesToDocument, ih]; rfl

theorem entriesToDocument_insert (key : String) (item : Item) (entries : Items) :
    Item.entriesToDocument (insert key item entries) =
      Entries.insert key item.toDocument (Item.entriesToDocument entries) := by
  induction entries with
  | nil => rfl
  | cons entry rest ih =>
    rcases entry with ⟨head, first⟩
    by_cases found : head = key
    · simp [insert, Entries.insert, Item.entriesToDocument, found]
    · simp [insert, Entries.insert, Item.entriesToDocument, found, ih]

theorem Tidy.insert (tidy : Tidy entries) (key : String) (itemTidy : item.toDocument.Tidy) :
    Tidy (Items.insert key item entries) := by
  rw [Tidy, entriesToDocument_insert]
  exact Document.Tidy.insert tidy key itemTidy

theorem Tidy.of_lookup (tidy : Tidy entries) (found : entries.lookup key = some item) :
    item.toDocument.Tidy := by
  have described : (Item.entriesToDocument entries).lookup key = some item.toDocument := by
    rw [entriesToDocument_eq_map, lookup_map, found, Option.map_some]
  exact Document.Tidy.of_lookup tidy described

theorem tidy_nil : Tidy [] :=
  Document.tidy_table_nil

/-- A change that leaves tables tidy may be made at any path. -/
theorem tidy_modifyAt {byDottedKey : Bool} {change : Bool → Items → Option Items}
    (kept : ∀ dotted entries result, Tidy entries → change dotted entries = some result →
      Tidy result) {path : List String} {dotted : Bool} (tidy : Tidy entries)
    (changed : modifyAt byDottedKey change path dotted entries = some result) : Tidy result := by
  induction path generalizing dotted entries result with
  | nil => exact kept dotted entries result tidy changed
  | cons key rest ih =>
    rw [modifyAt] at changed
    cases found : entries.lookup key with
    | none =>
      simp only [found] at changed
      rcases Option.bind_eq_some_iff.mp changed with ⟨made, madeEq, same⟩
      cases same
      exact tidy.insert key (ih tidy_nil madeEq)
    | some item =>
      cases item with
      | leaf value => simp [found] at changed
      | series tables =>
        simp only [found] at changed
        cases lastEq : tables.getLast? with
        | none => simp [lastEq] at changed
        | some last =>
          simp only [lastEq] at changed
          -- The series ends up in an array, so nothing has to be known about its tables.
          rcases Option.bind_eq_some_iff.mp changed with ⟨made, _, same⟩
          cases same
          exact tidy.insert key (.array _)
      | table implicit dotted inner =>
        simp only [found] at changed
        split at changed
        · cases changed
        · rcases Option.bind_eq_some_iff.mp changed with ⟨made, madeEq, same⟩
          cases same
          exact tidy.insert key (ih (tidy.of_lookup found) madeEq)

theorem tidy_addLeaf {byDottedKey dotted : Bool} {value : Document} (valueTidy : value.Tidy)
    (tidy : Tidy entries) (added : addLeaf byDottedKey key value dotted entries = some result) :
    Tidy result := by
  rw [addLeaf] at added
  split at added
  · cases added
  · cases added
    exact tidy.insert key valueTidy

theorem tidy_addAt {path : List String} {dotted : Bool} {value : Document}
    (valueTidy : value.Tidy) (tidy : Tidy entries)
    (added : addAt path key value dotted entries = some result) : Tidy result :=
  tidy_modifyAt (fun _ _ _ => tidy_addLeaf valueTidy) tidy added

theorem tidy_openTable (tidy : Tidy entries) (opened : openTable key entries = some result) :
    Tidy result := by
  rw [openTable] at opened
  split at opened
  · cases opened
    exact tidy.insert key tidy_nil
  · rename_i inner found
    cases opened
    refine tidy.insert key ?_
    have innerTidy := tidy.of_lookup found
    rwa [Item.toDocument] at innerTidy ⊢
  · cases opened

theorem tidy_openSeries (tidy : Tidy entries) (opened : openSeries key entries = some result) :
    Tidy result := by
  rw [openSeries] at opened
  split at opened
  · cases opened
    exact tidy.insert key (.array _)
  · cases opened
    exact tidy.insert key (.array _)
  · cases opened

end Items

theorem tidy_integerDocument? {value : Int} {document : Document}
    (read : integerDocument? value = some document) : document.Tidy := by
  rw [integerDocument?] at read
  split at read
  · cases read
    exact .integer value
  · cases read

theorem readsTidy_readInBase? (base : Nat) (isDigit : Char → Bool) :
    Document.ReadsTidy (readInBase? base isDigit) := by
  intro text document rest read
  rcases Option.bind_eq_some_iff.mp read with ⟨⟨digits, after⟩, _, read⟩
  rcases Option.bind_eq_some_iff.mp read with ⟨found, foundEq, read⟩
  cases read
  exact tidy_integerDocument? foundEq

theorem readsTidy_readInteger? : Document.ReadsTidy readInteger? := by
  intro text document rest read
  rw [readInteger?.eq_def] at read
  split at read
  · exact readsTidy_readInBase? _ _ _ _ _ read
  · exact readsTidy_readInBase? _ _ _ _ _ read
  · exact readsTidy_readInBase? _ _ _ _ _ read
  · rcases Option.bind_eq_some_iff.mp read with ⟨⟨digits, after⟩, _, read⟩
    rcases Option.bind_eq_some_iff.mp read with ⟨found, foundEq, read⟩
    cases read
    exact tidy_integerDocument? foundEq

theorem readsTidy_readDigitFloat? : Document.ReadsTidy readDigitFloat? := by
  intro text document rest read
  rcases Option.bind_eq_some_iff.mp read with ⟨⟨whole, after⟩, _, read⟩
  dsimp only at read
  -- However the tail was read, the same last step makes the number.
  split at read
  · split at read <;> dsimp only [Option.bind_eq_bind, Option.bind_some] at read <;> split at read
    · split at read <;> cases read
      exact .float _
    · cases read
    · split at read <;> cases read
      exact .float _
    · cases read
  · rcases Option.bind_eq_some_iff.mp read with ⟨⟨tail, left⟩, _, read⟩
    dsimp only at read
    split at read
    · split at read <;> cases read
      exact .float _
    · cases read

theorem readsTidy_readWordFloat? : Document.ReadsTidy readWordFloat? := by
  intro text document rest read
  grind [readWordFloat?, Document.Tidy.float]

theorem readsTidy_readDateTime? : Document.ReadsTidy readDateTime? := by
  intro text document rest read
  rcases Option.map_eq_some_iff.mp read with ⟨⟨content, after⟩, _, same⟩
  cases same
  refine .table (List.nodup_singleton _) ?_
  intro entry entryMem
  rw [List.mem_singleton] at entryMem
  exact entryMem ▸ .text _

theorem readsTidy_readScalar? : Document.ReadsTidy readScalar? := by
  intro text document rest read
  rw [readScalar?.eq_def] at read
  split at read
  · cases read
    exact .boolean true
  · cases read
    exact .boolean false
  · rcases Option.map_eq_some_iff.mp read with ⟨⟨content, after⟩, _, same⟩
    cases same
    exact .text content
  · rcases Option.map_eq_some_iff.mp read with ⟨⟨content, after⟩, _, same⟩
    cases same
    exact .text content
  · simp only [Option.orElse_eq_orElse, Option.orElse_eq_or, Option.or_eq_some_iff] at read
    rcases read with read | ⟨_, read | ⟨_, read | ⟨_, read⟩⟩⟩
    · exact readsTidy_readDateTime? _ _ _ read
    · exact readsTidy_readDigitFloat? _ _ _ read
    · exact readsTidy_readWordFloat? _ _ _ read
    · exact readsTidy_readInteger? _ _ _ read

theorem tidy_readAssignment? {readOne : List Char → Option (Document × List Char)}
    (reads : Document.ReadsTidy readOne) {text rest : List Char} {assignment : Assignment}
    (read : readAssignment? readOne text = some (assignment, rest)) : assignment.value.Tidy := by
  rcases Option.bind_eq_some_iff.mp read with ⟨⟨keys, _⟩, _, read⟩
  rcases Option.bind_eq_some_iff.mp read with ⟨_, _, read⟩
  rcases Option.bind_eq_some_iff.mp read with ⟨⟨value, _⟩, valueEq, read⟩
  rcases Option.bind_eq_some_iff.mp read with ⟨_, _, read⟩
  cases read
  exact reads _ _ _ valueEq

theorem tidy_readAssignments? {readOne : List Char → Option (Document × List Char)}
    (reads : Document.ReadsTidy readOne) {steps : Nat} {text rest : List Char}
    {assignments : List Assignment}
    (read : readAssignments? readOne steps text = some (assignments, rest)) :
    ∀ assignment ∈ assignments, assignment.value.Tidy := by
  induction steps generalizing text rest assignments with
  | zero => cases read
  | succ steps ih =>
    rcases Option.bind_eq_some_iff.mp read with ⟨⟨first, after⟩, firstEq, read⟩
    have firstTidy := tidy_readAssignment? reads firstEq
    dsimp only at read
    split at read
    · rcases Option.bind_eq_some_iff.mp read with ⟨⟨others, _⟩, othersEq, read⟩
      cases read
      rw [List.forall_mem_cons]
      exact ⟨firstTidy, ih othersEq⟩
    · cases read
      rw [List.forall_mem_singleton]
      exact firstTidy
    · cases read

theorem Items.tidy_foldlM_addAt {assignments : List Assignment} {entries result : Items}
    (valuesTidy : ∀ assignment ∈ assignments, assignment.value.Tidy) (tidy : Tidy entries)
    (built : assignments.foldlM (fun entries assignment =>
      addAt assignment.path assignment.key assignment.value false entries) entries =
        some result) : Tidy result := by
  induction assignments generalizing entries with
  | nil =>
    cases built
    exact tidy
  | cons assignment rest ih =>
    rw [List.forall_mem_cons] at valuesTidy
    rw [List.foldlM_cons] at built
    rcases Option.bind_eq_some_iff.mp built with ⟨next, nextEq, built⟩
    exact ih valuesTidy.2 (tidy_addAt valuesTidy.1 tidy nextEq) built

theorem tidy_inlineTable? {assignments : List Assignment} {document : Document}
    (valuesTidy : ∀ assignment ∈ assignments, assignment.value.Tidy)
    (made : inlineTable? assignments = some document) : document.Tidy := by
  rcases Option.bind_eq_some_iff.mp made with ⟨entries, built, same⟩
  cases same
  exact Items.tidy_foldlM_addAt valuesTidy Items.tidy_nil built

/-- Every value is tidy. Only the assignments of an inline table have to be so for that. -/
theorem readsTidy_readValue? (levels : Nat) : Document.ReadsTidy (readValue? levels) := by
  induction levels with
  | zero =>
    intro text document rest read
    rw [readValue?.eq_def] at read
    dsimp only at read
    split at read
    · cases read
    · cases read
    · exact readsTidy_readScalar? _ _ _ read
  | succ levels ih =>
    intro text document rest read
    rw [readValue?.eq_def] at read
    dsimp only at read
    split at read
    · rcases Option.bind_eq_some_iff.mp read with ⟨⟨items, after⟩, _, same⟩
      cases same
      exact .array items
    · split at read
      · cases read
        exact Document.tidy_table_nil
      · rcases Option.bind_eq_some_iff.mp read with ⟨⟨assignments, after⟩, found, read⟩
        rcases Option.bind_eq_some_iff.mp read with ⟨table, made, same⟩
        cases same
        exact tidy_inlineTable? (tidy_readAssignments? ih found) made
    · exact readsTidy_readScalar? _ _ _ read

namespace Progress

variable {progress next : Progress}

theorem tidy_openHeader {series : Bool} {keys : List String} (tidy : progress.items.Tidy)
    (opened : progress.openHeader series keys = some next) : next.items.Tidy := by
  rcases Option.bind_eq_some_iff.mp opened with ⟨key, _, opened⟩
  rcases Option.bind_eq_some_iff.mp opened with ⟨items, changed, same⟩
  cases same
  refine Items.tidy_modifyAt ?_ tidy changed
  intro _ entries result entriesTidy made
  cases series with
  | true => exact Items.tidy_openSeries entriesTidy made
  | false => exact Items.tidy_openTable entriesTidy made

theorem tidy_assign {assignment : Assignment} (valueTidy : assignment.value.Tidy)
    (tidy : progress.items.Tidy) (assigned : progress.assign assignment = some next) :
    next.items.Tidy := by
  rcases Option.bind_eq_some_iff.mp assigned with ⟨items, changed, same⟩
  cases same
  refine Items.tidy_modifyAt ?_ tidy changed
  intro _ entries result entriesTidy made
  exact Items.tidy_addAt valueTidy entriesTidy made

end Progress

theorem tidy_readLinesFrom? {steps : Nat} {progress last : Progress} {text : List Char}
    (tidy : progress.items.Tidy) (read : readLinesFrom? steps progress text = some last) :
    last.items.Tidy := by
  induction steps generalizing progress text with
  | zero => cases read
  | succ steps ih =>
    rw [readLinesFrom?] at read
    split at read
    · cases read
      exact tidy
    · rcases Option.bind_eq_some_iff.mp read with ⟨_, _, read⟩
      exact ih tidy read
    · exact ih tidy read
    · rcases Option.bind_eq_some_iff.mp read with ⟨_, _, read⟩
      exact ih tidy read
    · rcases Option.bind_eq_some_iff.mp read with ⟨⟨keys, _⟩, _, read⟩
      rcases Option.bind_eq_some_iff.mp read with ⟨next, opened, read⟩
      rcases Option.bind_eq_some_iff.mp read with ⟨_, _, read⟩
      exact ih (Progress.tidy_openHeader tidy opened) read
    · rcases Option.bind_eq_some_iff.mp read with ⟨⟨keys, _⟩, _, read⟩
      rcases Option.bind_eq_some_iff.mp read with ⟨next, opened, read⟩
      rcases Option.bind_eq_some_iff.mp read with ⟨_, _, read⟩
      exact ih (Progress.tidy_openHeader tidy opened) read
    · rcases Option.bind_eq_some_iff.mp read with ⟨⟨assignment, _⟩, found, read⟩
      rcases Option.bind_eq_some_iff.mp read with ⟨next, assigned, read⟩
      rcases Option.bind_eq_some_iff.mp read with ⟨_, _, read⟩
      have valueTidy := tidy_readAssignment? (readsTidy_readValue? _) found
      exact ih (Progress.tidy_assign valueTidy tidy assigned) read

/-- What a text describes is a tidy table. -/
theorem tidy_read? {text : String} {document : Document} (read : read? text = some document) :
    document.Tidy ∧ document.isTable = true := by
  rcases Option.bind_eq_some_iff.mp read with ⟨progress, lines, same⟩
  cases same
  exact ⟨tidy_readLinesFrom? Items.tidy_nil lines, rfl⟩

end Switchboard.Toml
