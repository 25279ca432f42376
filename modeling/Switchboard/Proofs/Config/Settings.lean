import Switchboard.Config.Codec
import Switchboard.Proofs.Document.Tidy

/-!
# Settings

The document of a configuration has tables for the sections and something else for every single
setting. The settings are the same for all configurations, except that a configuration has any
number of filters.
-/

namespace Switchboard

namespace Document

variable {document value : Document} {entries : Entries} {key : String} {path rest : List String}

theorem exists_entry_of_at? (found : (table entries).at? (key :: rest) = some value) :
    ∃ inner, (key, inner) ∈ entries ∧ inner.at? rest = some value := by
  rcases Option.bind_eq_some_iff.mp found with ⟨inner, innerEq, onward⟩
  exact ⟨inner, mem_of_lookup innerEq, onward⟩

theorem eq_nil_of_at? (found : document.at? path = some value) (flat : document.isTable = false) :
    path = [] := by
  cases path with
  | nil => rfl
  | cons key rest =>
    rw [isTable_of_at?_cons found] at flat
    cases flat

/-- Below tables of single settings there are only these settings. -/
theorem exists_name_of_at? (plain : ∀ entry ∈ entries, entry.2.isTable = false)
    (found : (table entries).at? path = some value) (flat : value.isTable = false) :
    ∃ name, path = [name] ∧ (name, value) ∈ entries := by
  cases path with
  | nil =>
    cases found
    cases flat
  | cons name rest =>
    rcases exists_entry_of_at? found with ⟨inner, innerMem, onward⟩
    cases eq_nil_of_at? onward (plain _ innerMem)
    cases onward
    exact ⟨name, rfl, innerMem⟩

/-- Below tables of single settings there is no table. -/
theorem eq_nil_of_isTable (plain : ∀ entry ∈ entries, entry.2.isTable = false)
    (found : (table entries).at? path = some value) (whole : value.isTable = true) : path = [] := by
  cases path with
  | nil => rfl
  | cons key rest =>
    rcases exists_entry_of_at? found with ⟨inner, innerMem, onward⟩
    have innerPlain := plain _ innerMem
    cases eq_nil_of_at? onward innerPlain
    cases onward
    rw [innerPlain] at whole
    cases whole

end Document

theorem TextMap.nodup_keys (map : TextMap) : (map.entries.map Prod.fst).Nodup :=
  List.pairwise_map.mpr (map.ordered.imp fun before => String.ne_of_lt before)

namespace LoggingSettings

open Document

variable {settings : LoggingSettings} {path : List String} {value : Document}

/-- The settings about logging. -/
inductive Setting : List String → Prop where
  | single {name : String} (known : name ∈ ["level", "format", "output", "file_path",
      "thread_ids", "file_location"]) : Setting [name]
  | spanEvents {name : String} (known : name ∈ ["new", "enter", "exit", "close"]) :
      Setting ["span_events", name]
  | filter (name : String) : Setting ["filters", name]

theorem isTable_filePath (filePath : Option String) :
    (match filePath with
      | some path => Document.text path
      | none => .null).isTable = false := by
  cases filePath <;> rfl

theorem plain_filters (filters : TextMap) :
    ∀ entry ∈ filters.entries.map (fun (key, value) => (key, Document.text value)),
      entry.2.isTable = false := by
  intro entry entryMem
  rcases List.mem_map.mp entryMem with ⟨_, _, rfl⟩
  rfl

theorem nodup_filters (filters : TextMap) :
    ((filters.entries.map fun (key, value) => (key, Document.text value)).map Prod.fst).Nodup := by
  rw [List.map_map]
  exact filters.nodup_keys

/-- Below the section there is a single setting, or one of the two inner sections. -/
theorem at?_cons_cases {name : String} {rest : List String}
    (found : settings.toDocument.at? (name :: rest) = some value) :
    (name ∈ ["level", "format", "output", "file_path", "thread_ids", "file_location"] ∧
      rest = [] ∧ value.isTable = false) ∨
    (name = "span_events" ∧ settings.spanEvents.toDocument.at? rest = some value) ∨
    (name = "filters" ∧ settings.filters.toDocument.at? rest = some value) := by
  rcases exists_entry_of_at? found with ⟨inner, innerMem, found⟩
  have single (plain : inner.isTable = false) : rest = [] ∧ value.isTable = false := by
    cases eq_nil_of_at? found plain
    cases found
    exact ⟨rfl, plain⟩
  simp only [List.mem_cons, Prod.mk.injEq, List.not_mem_nil, or_false] at innerMem
  rcases innerMem with ⟨rfl, rfl⟩ | ⟨rfl, rfl⟩ | ⟨rfl, rfl⟩ | ⟨rfl, rfl⟩ | ⟨rfl, rfl⟩ |
    ⟨rfl, rfl⟩ | ⟨rfl, rfl⟩ | ⟨rfl, rfl⟩
  · exact Or.inl ⟨by simp, single rfl⟩
  · exact Or.inl ⟨by simp, single rfl⟩
  · exact Or.inl ⟨by simp, single rfl⟩
  · exact Or.inl ⟨by simp, single (isTable_filePath _)⟩
  · exact Or.inl ⟨by simp, single rfl⟩
  · exact Or.inl ⟨by simp, single rfl⟩
  · exact Or.inr (Or.inl ⟨rfl, found⟩)
  · exact Or.inr (Or.inr ⟨rfl, found⟩)

theorem setting_of_at? (found : settings.toDocument.at? path = some value)
    (flat : value.isTable = false) : Setting path := by
  cases path with
  | nil =>
    cases found
    cases flat
  | cons name rest =>
    rcases at?_cons_cases found with ⟨known, rfl, _⟩ | ⟨rfl, below⟩ | ⟨rfl, below⟩
    · exact .single known
    · rcases exists_name_of_at? (by simp [isTable]) below flat with ⟨name, rfl, nameMem⟩
      exact .spanEvents (List.mem_map_of_mem (f := Prod.fst) nameMem)
    · rcases exists_name_of_at? (plain_filters _) below flat with ⟨name, rfl, _⟩
      exact .filter name

theorem mem_sections_of_at? (found : settings.toDocument.at? path = some value)
    (whole : value.isTable = true) : path ∈ [[], ["span_events"], ["filters"]] := by
  cases path with
  | nil => simp
  | cons name rest =>
    rcases at?_cons_cases found with ⟨_, _, flat⟩ | ⟨rfl, below⟩ | ⟨rfl, below⟩
    · rw [flat] at whole
      cases whole
    · rw [eq_nil_of_isTable (by simp [isTable]) below whole]
      simp
    · rw [eq_nil_of_isTable (plain_filters _) below whole]
      simp

theorem Setting.isTable_eq_false (setting : Setting path)
    (found : settings.toDocument.at? path = some value) : value.isTable = false := by
  cases setting with
  | single known =>
    simp only [List.mem_cons, List.not_mem_nil, or_false] at known
    rcases known with rfl | rfl | rfl | rfl | rfl | rfl <;> cases found <;>
      first | rfl | exact isTable_filePath _
  | spanEvents known =>
    simp only [List.mem_cons, List.not_mem_nil, or_false] at known
    rcases known with rfl | rfl | rfl | rfl <;> cases found <;> rfl
  | filter name =>
    have below : settings.filters.toDocument.at? [name] = some value := found
    rcases exists_entry_of_at? below with ⟨inner, innerMem, onward⟩
    cases onward
    exact plain_filters _ _ innerMem

theorem Setting.tablesAlong (setting : Setting path) (settings : LoggingSettings) :
    TablesAlong path settings.toDocument := by
  cases setting with
  | single => exact .through (by simp) fun inner _ => .done inner
  | spanEvents =>
    refine .through (by simp) ?_
    intro part found
    cases found
    exact .through (by simp) fun inner _ => .done inner
  | filter =>
    refine .through (by simp) ?_
    intro part found
    cases found
    exact .through (nodup_filters _) fun inner _ => .done inner

end LoggingSettings

namespace Configuration

open Document

variable {configuration : Configuration} {path : List String} {value : Document}

/-- Some configuration has something at a path that is no table: a single setting. -/
def IsLeaf (path : List String) : Prop :=
  ∃ (configuration : Configuration) (value : Document),
    configuration.toDocument.at? path = some value ∧ value.isTable = false

/-- Some configuration has a table at a path. -/
def IsSection (path : List String) : Prop :=
  ∃ (configuration : Configuration) (value : Document),
    configuration.toDocument.at? path = some value ∧ value.isTable = true

/-- The settings by their sections. -/
inductive Setting : List String → Prop where
  | command {name : String} (known : name ∈ ["prefix", "delimiters", "case_insensitive"]) :
      Setting ["command", name]
  | logging {path : List String} (inner : LoggingSettings.Setting path) :
      Setting ("logging" :: path)
  | usage {name : String} (known : name ∈ ["enabled", "queue_capacity"]) : Setting ["usage", name]
  | replies {name : String} (known : name ∈ ["failure_message", "max_responses"]) :
      Setting ["replies", name]

theorem IsLeaf.setting (leaf : IsLeaf path) : Setting path := by
  rcases leaf with ⟨configuration, value, found, flat⟩
  cases path with
  | nil =>
    cases found
    cases flat
  | cons name rest =>
    rcases exists_entry_of_at? found with ⟨part, partMem, found⟩
    simp only [List.mem_cons, Prod.mk.injEq, List.not_mem_nil, or_false] at partMem
    rcases partMem with ⟨rfl, rfl⟩ | ⟨rfl, rfl⟩ | ⟨rfl, rfl⟩ | ⟨rfl, rfl⟩
    · rcases exists_name_of_at? (by simp [isTable]) found flat with ⟨name, rfl, nameMem⟩
      exact .command (List.mem_map_of_mem (f := Prod.fst) nameMem)
    · exact .logging (LoggingSettings.setting_of_at? found flat)
    · rcases exists_name_of_at? (by simp [isTable]) found flat with ⟨name, rfl, nameMem⟩
      exact .usage (List.mem_map_of_mem (f := Prod.fst) nameMem)
    · rcases exists_name_of_at? (by simp [isTable]) found flat with ⟨name, rfl, nameMem⟩
      exact .replies (List.mem_map_of_mem (f := Prod.fst) nameMem)

/-- The paths of the sections. -/
def sections : List (List String) :=
  [[], ["command"], ["logging"], ["logging", "span_events"], ["logging", "filters"], ["usage"],
    ["replies"]]

theorem IsSection.mem_sections (whole : IsSection path) : path ∈ sections := by
  rcases whole with ⟨configuration, value, found, whole⟩
  cases path with
  | nil => simp [sections]
  | cons name rest =>
    rcases exists_entry_of_at? found with ⟨part, partMem, found⟩
    simp only [List.mem_cons, Prod.mk.injEq, List.not_mem_nil, or_false] at partMem
    rcases partMem with ⟨rfl, rfl⟩ | ⟨rfl, rfl⟩ | ⟨rfl, rfl⟩ | ⟨rfl, rfl⟩
    · rw [eq_nil_of_isTable (by simp [isTable]) found whole]
      simp [sections]
    · have inner := LoggingSettings.mem_sections_of_at? found whole
      simp only [List.mem_cons, List.not_mem_nil, or_false] at inner
      rcases inner with rfl | rfl | rfl <;> simp [sections]
    · rw [eq_nil_of_isTable (by simp [isTable]) found whole]
      simp [sections]
    · rw [eq_nil_of_isTable (by simp [isTable]) found whole]
      simp [sections]

/-- Every listed path is a section already of the defaults. -/
theorem isSection_of_mem_sections (listed : path ∈ sections) : IsSection path := by
  simp only [sections, List.mem_cons, List.not_mem_nil, or_false] at listed
  rcases listed with rfl | rfl | rfl | rfl | rfl | rfl | rfl <;> exact ⟨{}, _, rfl, rfl⟩

/-- What a configuration has for a setting is no table. -/
theorem Setting.isTable_eq_false (setting : Setting path)
    (found : configuration.toDocument.at? path = some value) : value.isTable = false := by
  cases setting with
  | command known | usage known | replies known =>
    simp only [List.mem_cons, List.not_mem_nil, or_false] at known
    rcases known with rfl | rfl | rfl <;> cases found <;> rfl
  | logging inner => exact inner.isTable_eq_false found

/-- The document of a configuration has tables on the way to every setting. -/
theorem Setting.tablesAlong (setting : Setting path) (configuration : Configuration) :
    TablesAlong path configuration.toDocument := by
  cases setting with
  | command | usage | replies =>
    refine .through (by simp) ?_
    intro part found
    cases found
    exact .through (by simp) fun inner _ => .done inner
  | logging inner =>
    refine .through (by simp) ?_
    intro part found
    cases found
    exact inner.tablesAlong configuration.logging

/-- Any key can be the key of a filter. -/
theorem isLeaf_filter (key : String) : IsLeaf ["logging", "filters", key] := by
  refine ⟨{ logging := { filters := TextMap.empty.insert key "" } }, .text "", ?_, rfl⟩
  change (List.lookup key [(key, Document.text "")]).bind _ = _
  rw [List.lookup_cons_self]
  rfl

/-- What a setting is found below is a section. -/
theorem IsLeaf.isSection {front back : List String} (leaf : IsLeaf (front ++ back))
    (nonempty : back ≠ []) : IsSection front := by
  rcases leaf with ⟨configuration, value, found, _⟩
  rw [at?_append] at found
  rcases Option.bind_eq_some_iff.mp found with ⟨part, partEq, onward⟩
  cases back with
  | nil => exact absurd rfl nonempty
  | cons key rest => exact ⟨configuration, part, partEq, isTable_of_at?_cons onward⟩

end Configuration

end Switchboard
