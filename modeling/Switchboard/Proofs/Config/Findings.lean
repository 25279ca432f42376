import Switchboard.Proofs.Config.Precedence

/-!
# Files that count

A file counts for a configuration if it is visited and holds a text. The warning that there is no
configuration file depends on neither: it is given where a search comes to no main file. So it is
wrong where a file for the profile counts, and it is missing where nothing but directories have the
names of main files.
-/

namespace Switchboard

namespace Document

variable {base : Document}

theorem merge_table_nil (tableBase : base.isTable = true) : base.merge (table []) = base := by
  cases base with
  | table entries => rw [merge_table, Entries.mergeAll]
  | null | boolean | integer | float | text | array => cases tableBase

end Document

namespace ConfigurationFile

variable {file : ConfigurationFile} {files : Files} {document : Document}

/-- The text that is read from a file that is there. -/
def text? (file : ConfigurationFile) (files : Files) : Option String :=
  if file.fixed then files.text? file.path else files.nearestText? file.path

/-- Whether something is there that holds a text. -/
def Counts (file : ConfigurationFile) (files : Files) : Prop :=
  files.holds file.path = true ∧ (file.text? files).isSome

instance (files : Files) : DecidablePred (Counts · files) := fun _ =>
  inferInstanceAs (Decidable (_ ∧ _))

theorem read?_of_text?_none (textless : file.text? files = none) :
    file.read? files = some (.table []) := by
  rw [text?] at textless
  rw [read?, textless]

theorem isTable_of_read? (read : file.read? files = some document) : document.isTable = true := by
  rw [read?] at read
  split at read
  · exact (Toml.tidy_read? read).2
  · cases read
    rfl

/-- Only a directory is there without a text. -/
theorem get?_of_text?_none (there : files.holds file.path = true)
    (textless : file.text? files = none) : files.get? file.path = some .directory := by
  rcases Option.isSome_iff_exists.mp there with ⟨entry, entryEq⟩
  cases entry with
  | directory => exact entryEq
  | file content =>
    have contentEq : files.text? file.path = some content := by rw [Files.text?, entryEq]
    rw [text?, contentEq, Files.nearestText?_of_text? contentEq, ite_self] at textless
    cases textless

end ConfigurationFile

namespace Loader

open Document

variable {loader : Loader} {surroundings : Surroundings} {files : Files}
  {candidates : List (ConfigurationFile × ConfigurationFile)} {base : Document}

/-- A document with those of files merged into it in order, if all of them can be read. -/
def mergeFiles? (files : Files) (base : Document) (visits : List ConfigurationFile) :
    Option Document :=
  (visits.mapM fun file : ConfigurationFile => file.read? files).map base.mergeList

theorem mergeFiles?_cons (files : Files) (base : Document) (file : ConfigurationFile)
    (rest : List ConfigurationFile) :
    mergeFiles? files base (file :: rest) =
      (file.read? files).bind fun document => mergeFiles? files (base.merge document) rest := by
  rw [mergeFiles?, List.mapM_cons]
  cases file.read? files with
  | none => rfl
  | some document =>
    simp only [mergeFiles?, Option.bind_some]
    cases rest.mapM fun file : ConfigurationFile => file.read? files <;> rfl

/-- Files without a text make no difference to what is merged. -/
theorem mergeFiles?_filter (tableBase : base.isTable = true) (visits : List ConfigurationFile) :
    mergeFiles? files base (visits.filter fun file => (file.text? files).isSome) =
      mergeFiles? files base visits := by
  -- What a file is merged into stays a table, so the rest can be taken for any table.
  induction visits generalizing base with
  | nil => rfl
  | cons file rest ih =>
    rw [mergeFiles?_cons]
    cases textEq : file.text? files with
    | none =>
      rw [List.filter_cons_of_neg (by simp [textEq]), ih tableBase,
        ConfigurationFile.read?_of_text?_none textEq, Option.bind_some, merge_table_nil tableBase]
    | some text =>
      rw [List.filter_cons_of_pos (by simp [textEq]), mergeFiles?_cons]
      apply Option.bind_congr
      intro document read
      apply ih
      rw [isTable_merge]
      exact ConfigurationFile.isTable_of_read? read

theorem layered?_eq_mergeFiles? (loader : Loader) (surroundings : Surroundings)
    (visits : List ConfigurationFile) :
    loader.layered? surroundings visits =
      (mergeFiles? surroundings.files ((Configuration.toDocument {}).merge loader.program)
        visits).map (mergeList · (loader.environmentSources surroundings)) := by
  rw [layered?, mergeFiles?]
  cases visits.mapM fun file : ConfigurationFile => file.read? surroundings.files with
  | none => rfl
  | some documents => simp [mergeList, environmentSources]

/-- The visited files that count. -/
def counted (loader : Loader) (surroundings : Surroundings) : List ConfigurationFile :=
  (loader.visited surroundings).filter fun file => (file.text? surroundings.files).isSome

/-- A loader merges what it would merge if there were no files but those that count. -/
theorem layered?_counted (loader : Loader) (surroundings : Surroundings) :
    loader.layered? surroundings (loader.counted surroundings) =
      loader.layered? surroundings (loader.visited surroundings) := by
  have programTable : loader.program.isTable = true := by
    apply isTable_mergeList rfl
    intro layer layerMem
    rcases List.mem_map.mp layerMem with ⟨configuration, _, rfl⟩
    rfl
  rw [layered?_eq_mergeFiles?, layered?_eq_mergeFiles?, counted, mergeFiles?_filter]
  rwa [isTable_merge]

theorem mem_counted_iff {file : ConfigurationFile} : file ∈ loader.counted surroundings ↔
    file ∈ loader.asked surroundings ∧ file.Counts surroundings.files := by
  rw [counted, visited, List.mem_filter, List.mem_filter, and_assoc, ConfigurationFile.Counts]

/-- Whether a main file is there that a loader may search for. -/
def MainFileThere (loader : Loader) (surroundings : Surroundings) : Prop :=
  ∃ candidate ∈ loader.candidates surroundings, surroundings.files.holds candidate.2.path = true

theorem visit_found_iff : (visit files candidates).2 = true ↔
    ∃ candidate ∈ candidates, files.holds candidate.2.path = true := by
  induction candidates with
  | nil => simp [visit]
  | cons candidate rest ih =>
    rcases candidate with ⟨profileFile, mainFile⟩
    rw [visit]
    cases there : files.holds mainFile.path <;> simp [there, ih]

/-- A search that finds no main file comes to every candidate. -/
theorem consulted_of_none_there
    (absent : ¬∃ candidate ∈ candidates, files.holds candidate.2.path = true) :
    consulted files candidates = candidates := by
  induction candidates with
  | nil => rfl
  | cons candidate rest ih =>
    rcases candidate with ⟨profileFile, mainFile⟩
    rw [List.exists_mem_cons_iff, not_or, Bool.not_eq_true] at absent
    rw [consulted_cons, absent.1, ih absent.2]
    rfl

/-- Without a main file, what counts are the profile files with a text. -/
theorem counted_ne_nil_iff (searches : loader.file = none)
    (absent : ¬loader.MainFileThere surroundings) :
    loader.counted surroundings ≠ [] ↔
      ∃ candidate ∈ loader.candidates surroundings, candidate.1.Counts surroundings.files := by
  have askedIff {file : ConfigurationFile} : file ∈ loader.asked surroundings ↔
      ∃ candidate ∈ loader.candidates surroundings, file = candidate.1 ∨ file = candidate.2 := by
    simp [asked, searches, consulted_of_none_there absent]
  constructor
  · intro someCount
    rcases List.exists_mem_of_ne_nil _ someCount with ⟨file, fileMem⟩
    rcases mem_counted_iff.mp fileMem with ⟨fileAsked, counts⟩
    rcases askedIff.mp fileAsked with ⟨candidate, candidateMem, rfl | rfl⟩
    · exact ⟨candidate, candidateMem, counts⟩
    · exact absurd ⟨candidate, candidateMem, counts.1⟩ absent
  · rintro ⟨candidate, candidateMem, counts⟩
    have fileAsked := askedIff.mpr ⟨candidate, candidateMem, Or.inl rfl⟩
    exact List.ne_nil_of_mem (mem_counted_iff.mpr ⟨fileAsked, counts⟩)

theorem counted_eq_nil_iff : loader.counted surroundings = [] ↔
    ∀ file ∈ loader.visited surroundings,
      surroundings.files.get? file.path = some .directory ∧
        file.text? surroundings.files = none := by
  rw [counted, List.filter_eq_nil_iff]
  constructor
  · intro textless file fileMem
    have noText : file.text? surroundings.files = none := by
      simpa using textless file fileMem
    have there := (List.mem_filter.mp fileMem).2
    exact ⟨ConfigurationFile.get?_of_text?_none there noText, noText⟩
  · intro directories file fileMem
    simp [(directories file fileMem).2]

/-- A loader that searches merges the texts of the files that count and nothing else from files. It
warns exactly if no main file is there. So it warns although a file counts exactly if no main file
is there but a profile file with a text is, and it keeps silent although no file counts exactly if a
main file is there and whatever is visited is a directory without a text. -/
theorem no_file_warning_iff (loader : Loader) (surroundings : Surroundings)
    (searches : loader.file = none) :
    ∃ warnings,
      loader.visitedFiles surroundings = .ok (loader.visited surroundings, warnings) ∧
      (∀ configuration logged, loader.load surroundings = .ok (configuration, logged) →
        logged = warnings) ∧
      loader.layered? surroundings (loader.counted surroundings) =
        loader.layered? surroundings (loader.visited surroundings) ∧
      (noFileWarning ∈ warnings ↔ ¬loader.MainFileThere surroundings) ∧
      (noFileWarning ∈ warnings ∧ loader.counted surroundings ≠ [] ↔
        ¬loader.MainFileThere surroundings ∧
          ∃ candidate ∈ loader.candidates surroundings, candidate.1.Counts surroundings.files) ∧
      (noFileWarning ∉ warnings ∧ loader.counted surroundings = [] ↔
        loader.MainFileThere surroundings ∧ ∀ file ∈ loader.visited surroundings,
          surroundings.files.get? file.path = some .directory ∧
            file.text? surroundings.files = none) := by
  have visits : ∃ warnings,
      loader.visitedFiles surroundings = .ok (loader.visited surroundings, warnings) ∧
      (noFileWarning ∈ warnings ↔ ¬loader.MainFileThere surroundings) := by
    rw [visitedFiles, visited, asked, searches]
    dsimp only
    rw [← visit_eq]
    refine ⟨_, rfl, ?_⟩
    rw [MainFileThere, ← visit_found_iff]
    cases (visit surroundings.files (loader.candidates surroundings)).2 <;> simp
  rcases visits with ⟨warnings, visitedEq, warningIff⟩
  refine ⟨warnings, visitedEq, ?_, loader.layered?_counted surroundings, warningIff, ?_, ?_⟩
  · intro configuration logged loaded
    rcases exists_documents_of_load loaded with ⟨_, same, _⟩
    rw [visitedEq] at same
    cases same
    rfl
  · rw [warningIff]
    exact and_congr_right fun absent => counted_ne_nil_iff searches absent
  · rw [warningIff, not_not, counted_eq_nil_iff]

/-- A loader that searches the usual directories for a profile of its own. -/
def stagingLoader : Loader where
  profile := .custom "staging"
  useEnvironment := false

/-- A profile file without a main file beside it. -/
def stagingPlaces : Surroundings where
  files := Files.ofList [("jelly.staging.toml", "[replies]\nmax_responses = 9\n")]
  userDirectory := "xdg"
  environment := []

/-- A profile file alone counts and is warned about. -/
theorem no_file_warning_iff_staging :
    stagingLoader.file = none ∧
    ∃ warnings,
      stagingLoader.visitedFiles stagingPlaces =
        .ok (stagingLoader.visited stagingPlaces, warnings) ∧
      noFileWarning ∈ warnings ∧ stagingLoader.counted stagingPlaces ≠ [] := by
  have absent : ¬stagingLoader.MainFileThere stagingPlaces := by
    have nothing : ∀ candidate ∈ stagingLoader.candidates stagingPlaces,
        stagingPlaces.files.holds candidate.2.path = false := by decide +kernel
    rintro ⟨candidate, candidateMem, there⟩
    rw [nothing candidate candidateMem] at there
    cases there
  have counts : ∃ candidate ∈ stagingLoader.candidates stagingPlaces,
      candidate.1.Counts stagingPlaces.files := by decide +kernel
  rcases no_file_warning_iff stagingLoader stagingPlaces rfl with
    ⟨warnings, visits, _, _, _, wrongIff, _⟩
  rcases wrongIff.mpr ⟨absent, counts⟩ with ⟨warned, someCount⟩
  exact ⟨rfl, warnings, visits, warned, someCount⟩

/-- The warning says that there is no configuration file where a profile file has given a setting,
and it is not given where a directory was taken for a file and the defaults are all there is. -/
theorem no_file_warning_not_truthful :
    (stagingLoader.file = none ∧
      stagingLoader.counted stagingPlaces = [⟨"./jelly.staging.toml", true⟩] ∧
      (stagingLoader.load stagingPlaces).toOption.map (fun (configuration, warnings) =>
        (configuration.replies.maxResponses, warnings)) = some (9, [noFileWarning])) ∧
    directoryLoader.file = none ∧ directoryLoader.counted directoryPlaces = [] ∧
    (directoryLoader.load directoryPlaces).toOption = some ({}, []) := by
  decide +kernel

end Loader

end Switchboard
