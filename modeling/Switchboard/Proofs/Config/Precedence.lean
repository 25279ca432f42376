import Switchboard.Proofs.Config.Reading
import Switchboard.Proofs.Config.Search
import Switchboard.Proofs.Config.Variables
import Switchboard.Proofs.Toml.Tidy

/-!
# Which source decides

Every setting of a configuration that was loaded has the value from the last source that sets it.
The sources are the defaults, the configurations from the program, the files that were visited, and
the environment, in this order.
-/

namespace Switchboard

namespace Document

variable {document old new : Document} {path : List String}

/-- A document has nothing but tables where configurations have tables. -/
def KeepsSections (document : Document) : Prop :=
  ∀ path value, Configuration.IsSection path → document.at? path = some value →
    value.isTable = true

theorem keepsSections_iff : document.KeepsSections ↔
    ∀ path ∈ Configuration.sections, (document.at? path).all isTable = true := by
  constructor
  · intro keeps path listed
    rw [Option.all_eq_true]
    intro value found
    exact keeps path value (Configuration.isSection_of_mem_sections listed) found
  · intro all path value whole found
    exact (Option.all_eq_true _ _).mp (all path whole.mem_sections) value found

instance : DecidablePred KeepsSections := fun _ =>
  decidable_of_iff _ keepsSections_iff.symm

theorem tidy_or_null_of_isTable_eq_false (flat : document.isTable = false) :
    document.Tidy ∨ document = null := by
  cases document with
  | table entries => cases flat
  | null => exact Or.inr rfl
  | boolean | integer | float | text | array => exact Or.inl (by constructor)

theorem tidy_or_null_merge (oldTidy : old.Tidy ∨ old = null) (newTidy : new.Tidy ∨ new = null) :
    (old.merge new).Tidy ∨ old.merge new = null := by
  rcases newTidy with newTidy | rfl
  · rcases oldTidy with oldTidy | rfl
    · exact Or.inl (oldTidy.merge newTidy)
    · have same : null.merge new = new := by
        cases new <;> rw [merge] <;> simp
      rw [same]
      exact Or.inl newTidy
  · exact Or.inr (merge_of_isTable_eq_false rfl)

theorem Tidy.tablesAlong_of_keepsSections (tidy : document.Tidy) (keeps : document.KeepsSections)
    (leaf : Configuration.IsLeaf path) : TablesAlong path document := by
  apply tidy.tablesAlong
  intro front back same nonempty value found
  subst same
  exact keeps front value (leaf.isSection nonempty) found

end Document

theorem ConfigurationFile.tidy_of_read? {file : ConfigurationFile} {files : Files}
    {document : Document} (read : file.read? files = some document) : document.Tidy := by
  rw [read?] at read
  split at read
  · exact (Toml.tidy_read? read).1
  · cases read
    exact Document.tidy_table_nil

theorem forall_of_mapM {Item Result : Type} {holds : Result → Prop}
    {read? : Item → Option Result} (each : ∀ item result, read? item = some result → holds result)
    {items : List Item} {results : List Result} (read : items.mapM read? = some results) :
    ∀ result ∈ results, holds result := by
  induction items generalizing results with
  | nil =>
    cases read
    simp
  | cons item rest ih =>
    rw [List.mapM_cons] at read
    rcases Option.bind_eq_some_iff.mp read with ⟨first, firstEq, read⟩
    rcases Option.bind_eq_some_iff.mp read with ⟨others, othersEq, same⟩
    cases same
    rw [List.forall_mem_cons]
    exact ⟨each item first firstEq, ih othersEq⟩

namespace Loader

open Document
open Switchboard.Configuration

variable {loader : Loader} {surroundings : Surroundings} {configuration : Configuration}
  {documents : List Document} {path : List String}

/-- The environment as a source, if it is one. -/
def environmentSources (loader : Loader) (surroundings : Surroundings) : List Document :=
  if loader.useEnvironment then [Environment.document surroundings.environment] else []

/-- The sources in the order of their priority, the highest one at the end. The files that were
visited have given the documents. -/
def sources (loader : Loader) (surroundings : Surroundings) (documents : List Document) :
    List Document :=
  toDocument {} :: loader.merges.map toDocument ++
    (documents ++ loader.environmentSources surroundings)

theorem tablesAlong_merges (loader : Loader) (setting : Setting path) :
    ∀ layer ∈ loader.merges.map toDocument, TablesAlong path layer := by
  intro layer layerMem
  rcases List.mem_map.mp layerMem with ⟨configuration, _, rfl⟩
  exact setting.tablesAlong configuration

theorem tablesAlong_program (loader : Loader) (setting : Setting path) :
    TablesAlong path loader.program :=
  (tablesAlong_table_nil path).mergeList (loader.tablesAlong_merges setting)

theorem isTable_program (setting : Setting path) {value : Document}
    (found : loader.program.at? path = some value) : value.isTable = false := by
  refine forall_at?_mergeList (fun value => value.isTable = false) ?_ (tablesAlong_table_nil path)
    (loader.tablesAlong_merges setting) ?_ value found
  · intro old new _ newFlat
    rwa [isTable_merge]
  · intro layer layerMem value found
    rcases List.mem_cons.mp layerMem with rfl | layerMem
    · cases setting <;> cases found
    · rcases List.mem_map.mp layerMem with ⟨configuration, _, rfl⟩
      exact setting.isTable_eq_false found

/-- The configurations from the program make one document that has what the last of them has. -/
theorem at?_program (loader : Loader) (setting : Setting path) :
    loader.program.at? path = settled (loader.merges.map toDocument) path := by
  have nothing : (table []).at? path = none := by
    cases setting <;> rfl
  rw [program, at?_mergeList (tablesAlong_table_nil path) (loader.tablesAlong_merges setting)
    fun _ => isTable_program setting, settled_cons, nothing, Option.or_none]

theorem tidy_of_mem_outer (documentsTidy : ∀ document ∈ documents, document.Tidy) :
    ∀ layer ∈ documents ++ loader.environmentSources surroundings, layer.Tidy := by
  intro layer layerMem
  rcases List.mem_append.mp layerMem with fromFile | fromEnvironment
  · exact documentsTidy layer fromFile
  · rw [environmentSources] at fromEnvironment
    split at fromEnvironment
    · rw [List.mem_singleton] at fromEnvironment
      exact fromEnvironment ▸ (Environment.tidy_document _).1
    · cases fromEnvironment

theorem tablesAlong_layers (documentsTidy : ∀ document ∈ documents, document.Tidy)
    (keeps : ∀ source ∈ loader.sources surroundings documents, source.KeepsSections)
    (leaf : IsLeaf path) :
    ∀ layer ∈ loader.program :: (documents ++ loader.environmentSources surroundings),
      TablesAlong path layer := by
  intro layer layerMem
  rcases List.mem_cons.mp layerMem with rfl | outer
  · exact tablesAlong_program loader leaf.setting
  · apply (tidy_of_mem_outer documentsTidy layer outer).tablesAlong_of_keepsSections _ leaf
    exact keeps layer (List.mem_append_right _ outer)

/-- Every setting of what layers describe together is decided by the last source that sets it. The
configurations from the program were merged apart, which makes no difference to a setting. -/
theorem at?_of_layers (documentsTidy : ∀ document ∈ documents, document.Tidy)
    (keeps : ∀ source ∈ loader.sources surroundings documents, source.KeepsSections)
    (leaf : IsLeaf path)
    (read : ofDocument? true ((toDocument {}).mergeList
      (loader.program :: (documents ++ loader.environmentSources surroundings))) =
        some configuration) :
    configuration.toDocument.at? path =
      settled (loader.sources surroundings documents) path := by
  have setting := leaf.setting
  have along := tablesAlong_layers documentsTidy keeps leaf
  have tidy : ∀ value, ((toDocument {}).mergeList (loader.program ::
      (documents ++ loader.environmentSources surroundings))).at? path = some value →
        value.Tidy ∨ value = null := by
    apply forall_at?_mergeList (fun value => value.Tidy ∨ value = null)
      (fun _ _ => tidy_or_null_merge) (setting.tablesAlong {}) along
    intro layer layerMem value found
    rcases List.mem_cons.mp layerMem with rfl | layerMem
    · exact tidy_or_null_of_isTable_eq_false (setting.isTable_eq_false found)
    · rcases List.mem_cons.mp layerMem with rfl | outer
      · exact tidy_or_null_of_isTable_eq_false (isTable_program setting found)
      · exact Or.inl ((tidy_of_mem_outer documentsTidy layer outer).at? found)
  have valueEq := Configuration.at?_toDocument read setting
    ((setting.tablesAlong {}).mergeList along) tidy
  -- What was read for a setting is no table, so no layer has put a table there.
  have flat : ∀ value, ((toDocument {}).mergeList (loader.program ::
      (documents ++ loader.environmentSources surroundings))).at? path = some value →
        value.isTable = false := by
    intro value found
    rw [found, Option.some_or] at valueEq
    exact setting.isTable_eq_false valueEq
  have mergedEq := at?_mergeList (setting.tablesAlong {}) along flat
  rw [valueEq, mergedEq, sources, settled_cons, settled_cons, at?_program loader setting,
    List.cons_append, settled_cons]
  simp only [settled_append, Option.or_assoc, Option.or_self]

/-- What a loader loads is put together from the files that it visits. -/
theorem exists_documents_of_load {warnings : List LogEntry}
    (loaded : loader.load surroundings = .ok (configuration, warnings)) :
    ∃ documents, loader.visitedFiles surroundings = .ok (loader.visited surroundings, warnings) ∧
      (loader.visited surroundings).mapM (·.read? surroundings.files) = some documents ∧
      ofDocument? true ((toDocument {}).mergeList
        (loader.program :: (documents ++ loader.environmentSources surroundings))) =
          some configuration := by
  rw [load] at loaded
  cases visits : loader.visitedFiles surroundings with
  | error fault =>
    rw [visits] at loaded
    cases loaded
  | ok result =>
    rcases result with ⟨files, found⟩
    rw [visits] at loaded
    dsimp only [bind, Except.bind] at loaded
    split at loaded
    · rename_i configuration read
      cases loaded
      rcases Option.bind_eq_some_iff.mp read with ⟨merged, layered, read⟩
      rcases Option.bind_eq_some_iff.mp layered with ⟨documents, documentsEq, same⟩
      cases same
      rw [← eq_visited_of_visitedFiles visits]
      exact ⟨documents, rfl, documentsEq, read⟩
    · cases loaded

/-- Every setting of a loaded configuration, each filter among them, is decided by the last source
that sets it, and there is a filter exactly where a source sets one. The sources are the defaults,
the configurations from the program in order, the visited files in order, and the environment. What
the loader does not notice does not matter. -/
theorem last_source_decides (loader : Loader) (surroundings : Surroundings) :
    (∀ configuration warnings, loader.load surroundings = .ok (configuration, warnings) →
      ∃ documents,
        loader.visitedFiles surroundings = .ok (loader.visited surroundings, warnings) ∧
        (loader.visited surroundings).mapM (·.read? surroundings.files) = some documents ∧
        ((∀ source ∈ loader.sources surroundings documents, source.KeepsSections) →
          (∀ path, IsLeaf path → configuration.toDocument.at? path =
            settled (loader.sources surroundings documents) path) ∧
          ∀ key, (configuration.logging.filters.entries.lookup key).isSome ↔
            ∃ source ∈ loader.sources surroundings documents,
              (source.at? ["logging", "filters", key]).isSome)) ∧
    ∀ other, loader.Unnoticed surroundings other →
      loader.load other = loader.load surroundings := by
  refine ⟨?_, fun other unnoticed => unnoticed.load_eq⟩
  intro configuration warnings loaded
  rcases exists_documents_of_load loaded with ⟨documents, visits, documentsEq, read⟩
  refine ⟨documents, visits, documentsEq, ?_⟩
  intro keeps
  have documentsTidy := forall_of_mapM (fun _ _ => ConfigurationFile.tidy_of_read?) documentsEq
  have decided (path : List String) (leaf : IsLeaf path) :=
    at?_of_layers documentsTidy keeps leaf read
  refine ⟨decided, ?_⟩
  intro key
  have filterEq : configuration.toDocument.at? ["logging", "filters", key] =
      (configuration.logging.filters.entries.lookup key).map .text := by
    have entryEq := lookup_map Document.text key configuration.logging.filters.entries
    change (List.lookup key _).bind _ = _
    rw [entryEq]
    cases configuration.logging.filters.entries.lookup key <;> rfl
  rw [← isSome_settled, ← decided _ (isLeaf_filter key), filterEq, Option.isSome_map]

/-- A loader with a source of every kind. -/
def layeredLoader : Loader where
  search := [.directory "a", .directory "b"]
  merges := [{ command := { lead := "?" }, logging := { level := "warn" } }]

/-- A profile file, the main file behind it, and a variable. -/
def layeredPlaces : Surroundings where
  files := Files.ofList [("a/jelly.development.toml", "[logging.filters]\nbot = \"trace\"\n"),
    ("b/jelly.toml", "[command]\nprefix = \"#\"\ndelimiters = [\";\"]\n")]
  userDirectory := "xdg"
  environment := [("JELLY_COMMAND__PREFIX", "!")]

/-- The same places with one more file, which a search does not come to. -/
def layeredPlacesBeside : Surroundings :=
  { layeredPlaces with
    files := layeredPlaces.files.write "b/config.toml" "[command]\nprefix = \"%\"\n" }

theorem unnoticed_layeredPlacesBeside :
    layeredLoader.Unnoticed layeredPlaces layeredPlacesBeside where
  userDirectory_eq := rfl
  environment_eq := rfl
  asked_eq := by decide +kernel
  above_eq := by
    have noDirectory : ∀ file ∈ layeredLoader.asked layeredPlaces,
        layeredPlaces.files.get? file.path ≠ some .directory := by decide +kernel
    intro file asked _ _ found
    exact absurd found (noDirectory file asked)

theorem last_source_decides_layered :
    (∃ configuration warnings documents,
      layeredLoader.load layeredPlaces = .ok (configuration, warnings) ∧
      (∀ source ∈ layeredLoader.sources layeredPlaces documents, source.KeepsSections) ∧
      IsLeaf ["command", "prefix"] ∧ configuration.command.lead = "!" ∧
      configuration.toDocument.at? ["command", "prefix"] =
        settled (layeredLoader.sources layeredPlaces documents) ["command", "prefix"] ∧
      ((configuration.logging.filters.entries.lookup "bot").isSome ↔
        ∃ source ∈ layeredLoader.sources layeredPlaces documents,
          (source.at? ["logging", "filters", "bot"]).isSome)) ∧
    layeredLoader.Unnoticed layeredPlaces layeredPlacesBeside ∧
    layeredLoader.load layeredPlacesBeside = layeredLoader.load layeredPlaces := by
  rcases last_source_decides layeredLoader layeredPlaces with ⟨decided, unchanged⟩
  refine ⟨?_, unnoticed_layeredPlacesBeside, unchanged _ unnoticed_layeredPlacesBeside⟩
  have leadEq : (layeredLoader.load layeredPlaces).toOption.map (·.1.command.lead) = some "!" := by
    decide +kernel
  have allKeep : ((layeredLoader.visited layeredPlaces).mapM
      fun file : ConfigurationFile => file.read? layeredPlaces.files).all
      (fun documents => decide (∀ source ∈ layeredLoader.sources layeredPlaces documents,
        source.KeepsSections)) = true := by
    decide +kernel
  cases loaded : layeredLoader.load layeredPlaces with
  | error fault =>
    rw [loaded] at leadEq
    cases leadEq
  | ok result =>
    rcases result with ⟨configuration, warnings⟩
    rcases decided configuration warnings loaded with ⟨documents, _, documentsEq, settles⟩
    rw [documentsEq, Option.all_some, decide_eq_true_iff] at allKeep
    rw [loaded] at leadEq
    have leaf : IsLeaf ["command", "prefix"] := ⟨{}, .text "JC", rfl, rfl⟩
    rcases settles allKeep with ⟨valuesEq, filtersIff⟩
    exact ⟨configuration, warnings, documents, rfl, allKeep, leaf, Option.some.inj leadEq,
      valuesEq _ leaf, filtersIff "bot"⟩

/-- A loader that searches one directory. -/
def directoryLoader : Loader where
  search := [.directory "a"]
  useEnvironment := false

/-- A directory in the place of a main file. -/
def directoryPlaces : Surroundings where
  files := Files.ofList [("a/jelly.toml/x", "")]
  userDirectory := "xdg"
  environment := []

/-- The same directory, and a file at the same path above the working directory. -/
def directoryPlacesAbove : Surroundings :=
  { directoryPlaces with
    files := directoryPlaces.files.write "../a/jelly.toml" "[command]\nprefix = \"!\"\n" }

/-- A directory that stands for a main file is read from above the working directory: a file counts
there that the search does not visit. -/
theorem file_above_directory_counts :
    (∀ file ∈ directoryLoader.asked directoryPlaces,
      file.path ≠ "../a/jelly.toml" ∧ directoryPlacesAbove.files.get? file.path =
        directoryPlaces.files.get? file.path) ∧
    (directoryLoader.load directoryPlaces).toOption.map (·.1.command.lead) = some "JC" ∧
    (directoryLoader.load directoryPlacesAbove).toOption.map (·.1.command.lead) = some "!" := by
  decide +kernel

end Loader

end Switchboard
