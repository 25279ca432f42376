import Switchboard.Proofs.Config.Settings

/-!
# Reading configurations

A configuration that was read has, for every setting, what the document has there, and the default
where the document has nothing. Nothing is converted on the way.
-/

namespace Switchboard

namespace Document

variable {document : Document}

theorem text_of_text? {value : String} (read : document.text? = some value) :
    text value = document := by
  cases document <;> cases read
  rfl

theorem boolean_of_boolean? {value : Bool} (read : document.boolean? = some value) :
    boolean value = document := by
  cases document <;> cases read
  rfl

theorem integer_of_count? {count : Nat} (read : document.count? = some count) :
    integer count = document := by
  rcases Option.map_eq_some_iff.mp read with ⟨value, valueEq, rfl⟩
  cases document with
  | integer number =>
    rw [integerWithin?] at valueEq
    split at valueEq
    · rename_i within
      cases valueEq
      rw [Int.toNat_of_nonneg within.1]
    · cases valueEq
  | null | boolean | float | text | array | table => cases valueEq

theorem map_text_of_mapM {items : List Document} {values : List String}
    (read : items.mapM text? = some values) : values.map text = items := by
  induction items generalizing values with
  | nil =>
    cases read
    rfl
  | cons item rest ih =>
    rw [List.mapM_cons] at read
    rcases Option.bind_eq_some_iff.mp read with ⟨first, firstEq, read⟩
    rcases Option.bind_eq_some_iff.mp read with ⟨others, othersEq, same⟩
    cases same
    rw [List.map_cons, text_of_text? firstEq, ih othersEq]

theorem array_of_listOf? {values : List String} (read : document.listOf? text? = some values) :
    array (values.map text) = document := by
  cases document with
  | array items => rw [map_text_of_mapM read]
  | null | boolean | integer | float | text | table => cases read

/-- A choice that is not made by a key without a value is a text. -/
theorem text_of_choice? {names : List String} {name : String}
    (tidy : document.Tidy ∨ document = null) (read : document.choice? names = some name) :
    text name = document := by
  rw [choice?.eq_def] at read
  split at read
  · split at read
    · cases read
      rfl
    · cases read
  · rcases tidy with tidy | missing
    · have innerTidy := tidy.of_lookup List.lookup_cons_self
      cases innerTidy
    · cases missing
  · cases read

end Document

theorem LogFormat.name_of_ofName? {name : String} {format : LogFormat}
    (named : ofName? name = some format) : format.name = name := by
  rw [ofName?] at named
  have chosen := List.find?_some named
  exact beq_iff_eq.mp chosen

theorem LogOutput.name_of_ofName? {name : String} {output : LogOutput}
    (named : ofName? name = some output) : output.name = name := by
  rw [ofName?] at named
  have chosen := List.find?_some named
  exact beq_iff_eq.mp chosen

theorem LogFormat.text_of_ofDocument? {document : Document} {format : LogFormat}
    (tidy : document.Tidy ∨ document = .null) (read : ofDocument? document = some format) :
    .text format.name = document := by
  rcases Option.bind_eq_some_iff.mp read with ⟨name, chosen, named⟩
  rw [name_of_ofName? named, Document.text_of_choice? tidy chosen]

theorem LogOutput.text_of_ofDocument? {document : Document} {output : LogOutput}
    (tidy : document.Tidy ∨ document = .null) (read : ofDocument? document = some output) :
    .text output.name = document := by
  rcases Option.bind_eq_some_iff.mp read with ⟨name, chosen, named⟩
  rw [name_of_ofName? named, Document.text_of_choice? tidy chosen]

namespace LoggingSettings

/-- The document of the path of the log file. -/
def pathDocument : Option String → Document
  | some path => .text path
  | none => .null

theorem pathDocument_of_path? {document : Document} {filePath : Option String}
    (read : path? document = some filePath) : pathDocument filePath = document := by
  cases document <;> cases read <;> rfl

end LoggingSettings

namespace TextMap

theorem lookup_insertEntry (key other value : String) (entries : List (String × String)) :
    (insertEntry key value entries).lookup other =
      if other = key then some value else entries.lookup other := by
  induction entries with
  | nil => rw [insertEntry, lookup_cons_entry]
  | cons entry rest ih =>
    rcases entry with ⟨head, first⟩
    rw [insertEntry]
    split
    · rw [lookup_cons_entry]
    · split
      · rename_i same
        subst same
        rw [lookup_cons_entry, lookup_cons_entry]
        split <;> rfl
      · rename_i different
        rw [lookup_cons_entry, lookup_cons_entry, ih]
        by_cases found : other = key
        · rw [if_neg (found ▸ different), if_pos found, if_pos found]
        · rw [if_neg found, if_neg found]

theorem lookup_foldl_insert {entries : List (String × String)} {map : TextMap}
    (distinct : (entries.map Prod.fst).Nodup) (key : String) :
    (entries.foldl (fun map (key, value) => map.insert key value) map).entries.lookup key =
      (entries.lookup key).or (map.entries.lookup key) := by
  induction entries generalizing map with
  | nil => rfl
  | cons entry rest ih =>
    rcases entry with ⟨head, first⟩
    rw [List.map_cons, List.nodup_cons] at distinct
    rw [List.foldl_cons, ih distinct.2, lookup_cons_entry]
    dsimp only [insert]
    rw [lookup_insertEntry]
    split
    · rename_i same
      have absent : rest.lookup key = none := lookup_eq_none (same ▸ distinct.1)
      rw [absent, Option.none_or, Option.some_or]
    · rfl

theorem lookup_ofList {entries : List (String × String)}
    (distinct : (entries.map Prod.fst).Nodup) (key : String) :
    (ofList entries).entries.lookup key = entries.lookup key := by
  rw [ofList, lookup_foldl_insert distinct, empty, List.lookup_nil, Option.or_none]

theorem entries_of_mapM {entries : Entries} {texts : List (String × String)}
    (read : entries.mapM (fun ((key, value) : String × Document) =>
      value.text?.map fun text => (key, text)) = some texts) :
    entries = texts.map fun (key, value) => (key, .text value) := by
  induction entries generalizing texts with
  | nil =>
    cases read
    rfl
  | cons entry rest ih =>
    rw [List.mapM_cons] at read
    rcases Option.bind_eq_some_iff.mp read with ⟨first, firstEq, read⟩
    rcases Option.bind_eq_some_iff.mp read with ⟨others, othersEq, same⟩
    rcases entry with ⟨key, document⟩
    rcases Option.map_eq_some_iff.mp firstEq with ⟨value, valueEq, rfl⟩
    cases same
    rw [List.map_cons, ← ih othersEq, ← Document.text_of_text? valueEq]

/-- A map has under every key what the document has there. -/
theorem at?_toDocument {document : Document} {map : TextMap} {name : String}
    (read : ofDocument? document = some map) (along : Document.TablesAlong [name] document) :
    map.toDocument.at? [name] = document.at? [name] := by
  cases along with
  | @through _ _ entries distinct _ =>
    rcases Option.map_eq_some_iff.mp read with ⟨texts, textsEq, rfl⟩
    have entriesEq := entries_of_mapM textsEq
    rw [entriesEq, List.map_map] at distinct
    rw [toDocument, entriesEq, Document.at?_table_cons, Document.at?_table_cons, lookup_map,
      lookup_map, lookup_ofList distinct]

end TextMap

/-- A field says at a path what the entries say there, or what the default says. -/
theorem Entries.at?_of_optional? {α : Type} {entries : Entries} {names path : List String}
    {name : String} {absent value : α} {read? : Document → Option α} (write : α → Document)
    (listed : name ∈ names) (inner : ∀ part, entries.lookup name = some part →
      read? part = some value →
        (write value).at? path = (part.at? path).or ((write absent).at? path))
    (read : optional? (entries.filter fun (key, _) => key ∈ names) name absent read? =
      some value) :
    (write value).at? path =
      ((Document.table entries).at? (name :: path)).or ((write absent).at? path) := by
  have lookupEq : (entries.filter fun (key, _) => key ∈ names).lookup name = entries.lookup name :=
    lookup_filter (fun key => decide (key ∈ names)) (by simpa using listed) entries
  rw [optional?, lookupEq] at read
  rw [Document.at?_table_cons]
  cases found : entries.lookup name with
  | none =>
    rw [found] at read
    cases read
    rfl
  | some part =>
    rw [found] at read
    exact inner part found read

/-- A field that is read as it would be written is what the entries have. -/
theorem Entries.at?_nil_of_optional? {α : Type} {entries : Entries} {names : List String}
    {name : String} {absent value : α} {read? : Document → Option α} (write : α → Document)
    (listed : name ∈ names) (exact : ∀ document, entries.lookup name = some document →
      read? document = some value → write value = document)
    (read : optional? (entries.filter fun (key, _) => key ∈ names) name absent read? =
      some value) :
    (write value).at? [] =
      ((Document.table entries).at? [name]).or ((write absent).at? []) := by
  apply at?_of_optional? write listed _ read
  intro part found partEq
  rw [exact part found partEq, Document.at?_nil, Option.some_or]

open Document (TablesAlong)

variable {surplus : Bool} {document : Document} {name : String}

theorem CommandSettings.at?_toDocument {settings : CommandSettings}
    (read : ofDocument? surplus document = some settings) (along : TablesAlong [name] document)
    (known : name ∈ ["prefix", "delimiters", "case_insensitive"]) :
    settings.toDocument.at? [name] =
      (document.at? [name]).or ((toDocument {}).at? [name]) := by
  cases along
  rcases Option.bind_eq_some_iff.mp read with ⟨lead, leadEq, read⟩
  rcases Option.bind_eq_some_iff.mp read with ⟨delimiters, delimitersEq, read⟩
  rcases Option.bind_eq_some_iff.mp read with ⟨caseInsensitive, caseEq, same⟩
  cases same
  simp only [List.mem_cons, List.not_mem_nil, or_false] at known
  rcases known with rfl | rfl | rfl
  · exact Entries.at?_nil_of_optional? .text (by simp) (fun _ _ => Document.text_of_text?) leadEq
  · exact Entries.at?_nil_of_optional? (fun delimiters => .array (delimiters.map .text))
      (by simp) (fun _ _ => Document.array_of_listOf?) delimitersEq
  · exact Entries.at?_nil_of_optional? .boolean (by simp)
      (fun _ _ => Document.boolean_of_boolean?) caseEq

theorem SpanEvents.at?_toDocument {events : SpanEvents}
    (read : ofDocument? surplus document = some events) (along : TablesAlong [name] document)
    (known : name ∈ ["new", "enter", "exit", "close"]) :
    events.toDocument.at? [name] = (document.at? [name]).or ((toDocument {}).at? [name]) := by
  cases along
  rcases Option.bind_eq_some_iff.mp read with ⟨new, newEq, read⟩
  rcases Option.bind_eq_some_iff.mp read with ⟨enter, enterEq, read⟩
  rcases Option.bind_eq_some_iff.mp read with ⟨exit, exitEq, read⟩
  rcases Option.bind_eq_some_iff.mp read with ⟨close, closeEq, same⟩
  cases same
  have exact (value : Bool) (part : Document) (read : part.boolean? = some value) :
      Document.boolean value = part := Document.boolean_of_boolean? read
  simp only [List.mem_cons, List.not_mem_nil, or_false] at known
  rcases known with rfl | rfl | rfl | rfl
  · exact Entries.at?_nil_of_optional? .boolean (by simp) (fun part _ => exact new part) newEq
  · exact Entries.at?_nil_of_optional? .boolean (by simp) (fun part _ => exact enter part) enterEq
  · exact Entries.at?_nil_of_optional? .boolean (by simp) (fun part _ => exact exit part) exitEq
  · exact Entries.at?_nil_of_optional? .boolean (by simp) (fun part _ => exact close part) closeEq

theorem UsageSettings.at?_toDocument {settings : UsageSettings}
    (read : ofDocument? surplus document = some settings) (along : TablesAlong [name] document)
    (known : name ∈ ["enabled", "queue_capacity"]) :
    settings.toDocument.at? [name] =
      (document.at? [name]).or ((toDocument {}).at? [name]) := by
  cases along
  rcases Option.bind_eq_some_iff.mp read with ⟨enabled, enabledEq, read⟩
  rcases Option.bind_eq_some_iff.mp read with ⟨capacity, capacityEq, same⟩
  cases same
  simp only [List.mem_cons, List.not_mem_nil, or_false] at known
  rcases known with rfl | rfl
  · exact Entries.at?_nil_of_optional? .boolean (by simp)
      (fun _ _ => Document.boolean_of_boolean?) enabledEq
  · exact Entries.at?_nil_of_optional? (fun count : Nat => .integer count) (by simp)
      (fun _ _ => Document.integer_of_count?) capacityEq

theorem ReplySettings.at?_toDocument {settings : ReplySettings}
    (read : ofDocument? surplus document = some settings) (along : TablesAlong [name] document)
    (known : name ∈ ["failure_message", "max_responses"]) :
    settings.toDocument.at? [name] =
      (document.at? [name]).or ((toDocument {}).at? [name]) := by
  cases along
  rcases Option.bind_eq_some_iff.mp read with ⟨message, messageEq, read⟩
  rcases Option.bind_eq_some_iff.mp read with ⟨responses, responsesEq, same⟩
  cases same
  simp only [List.mem_cons, List.not_mem_nil, or_false] at known
  rcases known with rfl | rfl
  · exact Entries.at?_nil_of_optional? .text (by simp)
      (fun _ _ => Document.text_of_text?) messageEq
  · exact Entries.at?_nil_of_optional? (fun count : Nat => .integer count) (by simp)
      (fun _ _ => Document.integer_of_count?) responsesEq

theorem LoggingSettings.at?_toDocument {settings : LoggingSettings} {path : List String}
    (read : ofDocument? surplus document = some settings) (along : TablesAlong path document)
    (setting : Setting path)
    (tidy : ∀ value, document.at? path = some value → value.Tidy ∨ value = .null) :
    settings.toDocument.at? path = (document.at? path).or ((toDocument {}).at? path) := by
  -- An array would be read by positions. The path to the setting leaves only a table.
  have table : ∃ entries, document = .table entries := by
    cases setting <;> cases along <;> exact ⟨_, rfl⟩
  rcases table with ⟨entries, rfl⟩
  rcases Option.bind_eq_some_iff.mp read with ⟨level, levelEq, read⟩
  rcases Option.bind_eq_some_iff.mp read with ⟨format, formatEq, read⟩
  rcases Option.bind_eq_some_iff.mp read with ⟨output, outputEq, read⟩
  rcases Option.bind_eq_some_iff.mp read with ⟨filePath, pathEq, read⟩
  rcases Option.bind_eq_some_iff.mp read with ⟨threadIds, threadsEq, read⟩
  rcases Option.bind_eq_some_iff.mp read with ⟨fileLocation, locationEq, read⟩
  rcases Option.bind_eq_some_iff.mp read with ⟨spanEvents, eventsEq, read⟩
  rcases Option.bind_eq_some_iff.mp read with ⟨filters, filtersEq, same⟩
  cases same
  cases setting with
  | @single name known =>
    have partTidy (part : Document) (found : entries.lookup name = some part) :
        part.Tidy ∨ part = .null := by
      apply tidy part
      rw [Document.at?_table_cons, found, Option.bind_some, Document.at?_nil]
    simp only [List.mem_cons, List.not_mem_nil, or_false] at known
    rcases known with rfl | rfl | rfl | rfl | rfl | rfl
    · exact Entries.at?_nil_of_optional? .text (by simp)
        (fun _ _ => Document.text_of_text?) levelEq
    · exact Entries.at?_nil_of_optional? (fun format : LogFormat => .text format.name) (by simp)
        (fun part found => LogFormat.text_of_ofDocument? (partTidy part found)) formatEq
    · exact Entries.at?_nil_of_optional? (fun output : LogOutput => .text output.name) (by simp)
        (fun part found => LogOutput.text_of_ofDocument? (partTidy part found)) outputEq
    · exact Entries.at?_nil_of_optional? pathDocument (by simp)
        (fun _ _ => pathDocument_of_path?) pathEq
    · exact Entries.at?_nil_of_optional? .boolean (by simp)
        (fun _ _ => Document.boolean_of_boolean?) threadsEq
    · exact Entries.at?_nil_of_optional? .boolean (by simp)
        (fun _ _ => Document.boolean_of_boolean?) locationEq
  | @spanEvents name known =>
    refine Entries.at?_of_optional? SpanEvents.toDocument (by simp) ?_ eventsEq
    intro part found partEq
    exact SpanEvents.at?_toDocument partEq (along.inner found) known
  | filter name =>
    refine Entries.at?_of_optional? TextMap.toDocument (by simp) ?_ filtersEq
    intro part found partEq
    rw [TextMap.at?_toDocument partEq (along.inner found)]
    exact Option.or_none.symm

namespace Configuration

/-- A configuration that was read has, for every setting, what the document has for it, or the
default. -/
theorem at?_toDocument {configuration : Configuration} {path : List String}
    (read : ofDocument? surplus document = some configuration) (setting : Setting path)
    (along : TablesAlong path document)
    (tidy : ∀ value, document.at? path = some value → value.Tidy ∨ value = .null) :
    configuration.toDocument.at? path = (document.at? path).or ((toDocument {}).at? path) := by
  have table : ∃ entries, document = .table entries := by
    cases setting <;> cases along <;> exact ⟨_, rfl⟩
  rcases table with ⟨entries, rfl⟩
  rcases Option.bind_eq_some_iff.mp read with ⟨command, commandEq, read⟩
  rcases Option.bind_eq_some_iff.mp read with ⟨logging, loggingEq, read⟩
  rcases Option.bind_eq_some_iff.mp read with ⟨usage, usageEq, read⟩
  rcases Option.bind_eq_some_iff.mp read with ⟨replies, repliesEq, same⟩
  cases same
  cases setting with
  | command known =>
    refine Entries.at?_of_optional? CommandSettings.toDocument (by simp) ?_ commandEq
    intro part found partEq
    exact CommandSettings.at?_toDocument partEq (along.inner found) known
  | logging setting =>
    refine Entries.at?_of_optional? LoggingSettings.toDocument (by simp) ?_ loggingEq
    intro part found partEq
    apply LoggingSettings.at?_toDocument partEq (along.inner found) setting
    intro value below
    apply tidy value
    rw [Document.at?_table_cons, found, Option.bind_some, below]
  | usage known =>
    refine Entries.at?_of_optional? UsageSettings.toDocument (by simp) ?_ usageEq
    intro part found partEq
    exact UsageSettings.at?_toDocument partEq (along.inner found) known
  | replies known =>
    refine Entries.at?_of_optional? ReplySettings.toDocument (by simp) ?_ repliesEq
    intro part found partEq
    exact ReplySettings.at?_toDocument partEq (along.inner found) known

end Configuration

end Switchboard
