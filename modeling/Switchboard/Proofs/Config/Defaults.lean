import Switchboard.Proofs.Config.RoundTrip

/-!
# The two sources of defaults

Defaults are written once as a configuration, which all other layers are merged into, and once with
the fields, for documents that leave fields out. Both give the same: what a document describes over
the written defaults is what it describes on its own. This needs a table in the place of every
section with fields of its own. An array there would be read by positions, but it takes away the
defaults that were written.
-/

namespace Switchboard

namespace Configuration

/-- The paths of the sections that have fields of their own. -/
def records : List (List String) :=
  [[], ["command"], ["logging"], ["logging", "span_events"], ["usage"], ["replies"]]

end Configuration

namespace Document

variable {document old part : Document}

/-- Every section with fields of its own is a table where a document has it. -/
def KeepsRecords (document : Document) : Prop :=
  ∀ path ∈ Configuration.records, (document.at? path).all isTable = true

instance : DecidablePred KeepsRecords := fun document =>
  inferInstanceAs (Decidable (∀ path ∈ Configuration.records,
    (document.at? path).all Document.isTable = true))

theorem KeepsRecords.isTable (keeps : document.KeepsRecords) {path : List String}
    (listed : path ∈ Configuration.records) (found : document.at? path = some part) :
    part.isTable = true := by
  have all := keeps path listed
  simpa [found] using all

end Document

namespace Entries

variable {Value Result : Type} {entries additions : Entries} {names : List String} {name : String}
  {absent : Value} {written : Document} {read? other? : Document → Option Value}
  {next after : Value → Option Result}

/-- A field over its written default reads as the field alone with that default. What reads the
parts may be two readers, as long as they agree on what is there. -/
theorem bind_optional?_merged (distinct : (additions.map Prod.fst).Nodup)
    (writtenEq : entries.lookup name = some written) (listed : name ∈ names)
    (absentEq : read? written = some absent)
    (covers : ∀ part, additions.lookup name = some part →
      read? (written.merge part) = other? part)
    (nextEq : ∀ value, next value = after value) :
    (optional? ((mergeAll entries additions).filter fun (key, _) => key ∈ names) name absent
        read?).bind next =
      (optional? (additions.filter fun (key, _) => key ∈ names) name absent other?).bind after := by
  have kept (entries : Entries) :
      (entries.filter fun (key, _) => key ∈ names).lookup name = entries.lookup name :=
    lookup_filter (fun key => decide (key ∈ names)) (by simpa using listed) entries
  have nextEq : next = after := funext nextEq
  simp only [optional?, kept, lookup_mergeAll distinct, writtenEq, nextEq]
  cases found : additions.lookup name with
  | none => simp [absentEq]
  | some part => simp [covers part found]

/-- A field whose default is no table takes what is written over it. -/
theorem bind_optional?_flat (distinct : (additions.map Prod.fst).Nodup)
    (writtenEq : entries.lookup name = some written) (flat : written.isTable = false)
    (listed : name ∈ names) (absentEq : read? written = some absent)
    (nextEq : ∀ value, next value = after value) :
    (optional? ((mergeAll entries additions).filter fun (key, _) => key ∈ names) name absent
        read?).bind next =
      (optional? (additions.filter fun (key, _) => key ∈ names) name absent read?).bind after := by
  apply bind_optional?_merged distinct writtenEq listed absentEq _ nextEq
  intro part _
  rw [Document.merge_into_flat flat]

end Entries

variable {left right : Bool} {document : Document}

theorem CommandSettings.ofDocument?_merged (tidy : document.Tidy)
    (whole : document.isTable = true) :
    ofDocument? left ((toDocument {}).merge document) = ofDocument? right document := by
  rcases tidy.exists_table whole with ⟨entries, distinct, rfl⟩
  rw [toDocument, Document.merge_table]
  refine Entries.bind_optional?_flat distinct rfl rfl (by simp) rfl ?_
  intro lead
  refine Entries.bind_optional?_flat distinct rfl rfl (by simp) rfl ?_
  intro delimiters
  refine Entries.bind_optional?_flat distinct rfl rfl (by simp) rfl ?_
  intro caseInsensitive
  rfl

theorem SpanEvents.ofDocument?_merged (tidy : document.Tidy) (whole : document.isTable = true) :
    ofDocument? left ((toDocument {}).merge document) = ofDocument? right document := by
  rcases tidy.exists_table whole with ⟨entries, distinct, rfl⟩
  rw [toDocument, Document.merge_table]
  refine Entries.bind_optional?_flat distinct rfl rfl (by simp) rfl ?_
  intro new
  refine Entries.bind_optional?_flat distinct rfl rfl (by simp) rfl ?_
  intro enter
  refine Entries.bind_optional?_flat distinct rfl rfl (by simp) rfl ?_
  intro exit
  refine Entries.bind_optional?_flat distinct rfl rfl (by simp) rfl ?_
  intro close
  rfl

theorem LoggingSettings.ofDocument?_merged (tidy : document.Tidy)
    (whole : document.isTable = true)
    (eventsWhole : ∀ part, document.at? ["span_events"] = some part → part.isTable = true) :
    ofDocument? left ((toDocument {}).merge document) = ofDocument? right document := by
  rcases tidy.exists_table whole with ⟨entries, distinct, rfl⟩
  rw [toDocument, Document.merge_table]
  refine Entries.bind_optional?_flat distinct rfl rfl (by simp) rfl ?_
  intro level
  refine Entries.bind_optional?_flat distinct rfl rfl (by simp) rfl ?_
  intro format
  refine Entries.bind_optional?_flat distinct rfl rfl (by simp) rfl ?_
  intro output
  refine Entries.bind_optional?_flat distinct rfl rfl (by simp) rfl ?_
  intro filePath
  refine Entries.bind_optional?_flat distinct rfl rfl (by simp) rfl ?_
  intro threadIds
  refine Entries.bind_optional?_flat distinct rfl rfl (by simp) rfl ?_
  intro fileLocation
  refine Entries.bind_optional?_merged distinct rfl (by simp) rfl ?_ ?_
  · intro part found
    apply SpanEvents.ofDocument?_merged (tidy.of_lookup found)
    apply eventsWhole
    simp [found]
  intro spanEvents
  -- The written default of the filters is an empty table, over which everything is as it is.
  refine Entries.bind_optional?_merged distinct rfl (by simp) rfl ?_ ?_
  · intro part found
    exact congrArg _ (tidy.of_lookup found).table_nil_merge
  intro filters
  rfl

theorem UsageSettings.ofDocument?_merged (tidy : document.Tidy)
    (whole : document.isTable = true) :
    ofDocument? left ((toDocument {}).merge document) = ofDocument? right document := by
  rcases tidy.exists_table whole with ⟨entries, distinct, rfl⟩
  rw [toDocument, Document.merge_table]
  refine Entries.bind_optional?_flat distinct rfl rfl (by simp) rfl ?_
  intro enabled
  refine Entries.bind_optional?_flat distinct rfl rfl (by simp) rfl ?_
  intro queueCapacity
  rfl

theorem ReplySettings.ofDocument?_merged (tidy : document.Tidy)
    (whole : document.isTable = true) :
    ofDocument? left ((toDocument {}).merge document) = ofDocument? right document := by
  rcases tidy.exists_table whole with ⟨entries, distinct, rfl⟩
  rw [toDocument, Document.merge_table]
  refine Entries.bind_optional?_flat distinct rfl rfl (by simp) rfl ?_
  intro failureMessage
  refine Entries.bind_optional?_flat distinct rfl rfl (by simp) rfl ?_
  intro maxResponses
  rfl

/-- Over the written defaults, a document describes what it describes alone. -/
theorem Configuration.ofDocument?_merged (tidy : document.Tidy) (keeps : document.KeepsRecords) :
    ofDocument? left ((toDocument {}).merge document) = ofDocument? right document := by
  have whole := keeps.isTable (by simp [Configuration.records]) (Document.at?_nil _)
  rcases tidy.exists_table whole with ⟨entries, distinct, rfl⟩
  have sectionWhole {name : String} {part : Document} (listed : [name] ∈ Configuration.records)
      (found : entries.lookup name = some part) : part.isTable = true := by
    apply keeps.isTable listed
    simp [found]
  rw [toDocument, Document.merge_table]
  refine Entries.bind_optional?_merged distinct rfl (by simp) rfl ?_ ?_
  · intro part found
    apply CommandSettings.ofDocument?_merged (tidy.of_lookup found)
    exact sectionWhole (by simp [Configuration.records]) found
  intro command
  refine Entries.bind_optional?_merged distinct rfl (by simp) rfl ?_ ?_
  · intro part found
    apply LoggingSettings.ofDocument?_merged (tidy.of_lookup found)
    · exact sectionWhole (by simp [Configuration.records]) found
    · intro events eventsEq
      have eventsAt : (Document.table entries).at? ["logging", "span_events"] = some events := by
        simp [found, eventsEq]
      exact keeps.isTable (by simp [Configuration.records]) eventsAt
  intro logging
  refine Entries.bind_optional?_merged distinct rfl (by simp) rfl ?_ ?_
  · intro part found
    apply UsageSettings.ofDocument?_merged (tidy.of_lookup found)
    exact sectionWhole (by simp [Configuration.records]) found
  intro usage
  refine Entries.bind_optional?_merged distinct rfl (by simp) rfl ?_ ?_
  · intro part found
    apply ReplySettings.ofDocument?_merged (tidy.of_lookup found)
    exact sectionWhole (by simp [Configuration.records]) found
  intro replies
  rfl

namespace Loader

/-- A document means the same on its own as over the written defaults. So a loader with nothing but
one file loads what the document in that file describes on its own, and fails where it describes
nothing. -/
theorem written_defaults_agree (surplus : Bool) (tidy : document.Tidy)
    (keeps : document.KeepsRecords) :
    Configuration.ofDocument? true ((Configuration.toDocument {}).merge document) =
        Configuration.ofDocument? surplus document ∧
      ∀ (loader : Loader) (surroundings : Surroundings) (file : ConfigurationFile)
        (warnings : List LogEntry),
        loader.merges = [] → loader.useEnvironment = false →
        loader.visitedFiles surroundings = .ok ([file], warnings) →
        file.read? surroundings.files = some document →
        loader.load surroundings = match Configuration.ofDocument? surplus document with
          | some configuration => .ok (configuration, warnings)
          | none => .error .unreadable := by
  have agrees : Configuration.ofDocument? true ((Configuration.toDocument {}).merge document) =
      Configuration.ofDocument? surplus document := Configuration.ofDocument?_merged tidy keeps
  refine ⟨agrees, ?_⟩
  intro loader surroundings file warnings noMerges apart visits read
  have documentsEq : [file].mapM (·.read? surroundings.files) = some [document] := by
    simp [read]
  have programEq : loader.program = .table [] := by
    simp [program, noMerges, Document.mergeList]
  have layersEq : (Configuration.toDocument {}).mergeList
      (loader.program :: ([document] ++ loader.environmentSources surroundings)) =
        (Configuration.toDocument {}).merge document := by
    have nothingOver : (Configuration.toDocument {}).merge (.table []) =
        Configuration.toDocument {} := by
      simp [Configuration.toDocument, Document.merge_table, Entries.mergeAll]
    simp [Document.mergeList, programEq, environmentSources, apart, nothingOver]
  rw [load_eq_elim visits documentsEq, layersEq, agrees]
  cases Configuration.ofDocument? surplus document <;> rfl

/-- A loader with one explicit file and nothing else. -/
def fileLoader : Loader where
  file := some "bot.toml"
  useEnvironment := false

/-- Surroundings in which the explicit file has a text. -/
def filePlaces (text : String) : Surroundings where
  files := Files.ofList [("bot.toml", text)]
  userDirectory := "xdg"
  environment := []

/-- A file with parts of sections at two depths. -/
def partialText : String :=
  "[command]\nprefix = \"!\"\n[logging.span_events]\nclose = true\n[usage]\nenabled = false\n"

/-- The same file with a text in the place of a truth value. -/
def misfitText : String :=
  "[command]\nprefix = \"!\"\n[logging.span_events]\nclose = \"yes\"\n"

/-- What the file with parts of sections describes. -/
def partialConfiguration : Configuration where
  command := { lead := "!" }
  logging := { spanEvents := { close := true } }
  usage := { enabled := false }

theorem visitedFiles_filePlaces (text : String) :
    fileLoader.visitedFiles (filePlaces text) = .ok ([{ path := "bot.toml" }], []) := by
  rfl

theorem read?_filePlaces (text : String) :
    ConfigurationFile.read? { path := "bot.toml" } (filePlaces text).files = Toml.read? text := by
  have written : (filePlaces text).files.text? "bot.toml" = some text := rfl
  simp [ConfigurationFile.read?, Files.nearestText?_of_text? written]

theorem written_defaults_agree_partial :
    (∃ document, document.Tidy ∧ document.KeepsRecords ∧
      Configuration.ofDocument? true ((Configuration.toDocument {}).merge document) =
        some partialConfiguration ∧
      Configuration.ofDocument? false document = some partialConfiguration ∧
      fileLoader.load (filePlaces partialText) = .ok (partialConfiguration, [])) ∧
    fileLoader.load (filePlaces misfitText) = .error .unreadable := by
  have partialEq : (Toml.read? partialText).map (fun document =>
      (decide document.KeepsRecords, Configuration.ofDocument? false document)) =
        some (true, some partialConfiguration) := by decide +kernel
  have misfitEq : (Toml.read? misfitText).map (fun document =>
      (decide document.KeepsRecords, Configuration.ofDocument? false document)) =
        some (true, none) := by decide +kernel
  simp only [Option.map_eq_some_iff, Prod.mk.injEq, decide_eq_true_iff] at partialEq misfitEq
  rcases partialEq with ⟨document, read, keeps, described⟩
  rcases misfitEq with ⟨misfit, misfitRead, misfitKeeps, undescribed⟩
  constructor
  · have tidy := (Toml.tidy_read? read).1
    rcases written_defaults_agree false tidy keeps with ⟨agrees, loads⟩
    have loaded := loads fileLoader (filePlaces partialText) _ _ rfl rfl
      (visitedFiles_filePlaces partialText) ((read?_filePlaces partialText).trans read)
    rw [described] at agrees loaded
    exact ⟨document, tidy, keeps, agrees, described, loaded⟩
  · have tidy := (Toml.tidy_read? misfitRead).1
    have loaded := (written_defaults_agree false tidy misfitKeeps).2 fileLoader
      (filePlaces misfitText) _ _ rfl rfl (visitedFiles_filePlaces misfitText)
      ((read?_filePlaces misfitText).trans misfitRead)
    rwa [undescribed] at loaded

end Loader

end Switchboard
