import Mathlib.Data.List.TakeWhile
import Switchboard.Config.Loader
import Switchboard.Proofs.Lookup

/-!
# Where a loader looks

A search asks for the files of its candidates in order and ends behind the first main file that is
there. What lies anywhere else cannot be noticed, with one exception: a path that leads to a
directory counts as a file that is there, and its text is then looked for above the working
directory.
-/

namespace Switchboard

namespace Files

variable {files other : Files} {path text : String}

/-- A path behind some steps upwards. -/
def upwards : Nat → String → String
  | 0, path => path
  | steps + 1, path => upwards steps ("../" ++ path)

theorem pathSteps_up (path : String) : pathSteps ("../" ++ path) = ".." :: pathSteps path := by
  simp [pathSteps, pathSteps.go]

theorem pathStart_upwards (steps : Nat) (path : String) :
    pathStart (upwards (steps + 1) path) =
      ([], List.replicate (steps + 1) ".." ++ pathSteps path) := by
  have stepsEq (steps : Nat) (path : String) :
      pathSteps (upwards steps path) = List.replicate steps ".." ++ pathSteps path := by
    induction steps generalizing path with
    | zero => rfl
    | succ steps ih => rw [upwards, ih, pathSteps_up, List.replicate_succ', List.append_assoc]; rfl
  rw [pathStart, stepsEq, List.replicate_succ]
  rfl

/-- No step leads down from a place above the working directory to less steps upwards. -/
theorem prefix_stepFrom {height : Nat} {place : List String} (step : String)
    (above : List.replicate height ".." <+: place) :
    List.replicate height ".." <+: stepFrom place step := by
  rw [stepFrom]
  split
  · exact above
  · split
    · split
      · exact above.trans (List.prefix_append place [".."])
      · exact above.trans (List.prefix_append place [".."])
      · exact above
      · -- What is taken off is a name, and the steps upwards come before all names.
        rename_i last notUp notRoot lastEq
        rcases above with ⟨rest, rfl⟩
        have nonempty : rest ≠ [] := by
          rintro rfl
          cases height with
          | zero => simp at lastEq
          | succ height =>
            rw [List.append_nil, List.getLast?_replicate] at lastEq
            exact notUp (Option.some.inj lastEq).symm
        rw [List.dropLast_append_of_ne_nil nonempty]
        exact List.prefix_append _ _
    · exact above.trans (List.prefix_append place [step])

theorem prefix_of_walk? {height : Nat} {place final steps : List String}
    (above : List.replicate height ".." <+: place) (walked : files.walk? place steps = some final) :
    List.replicate height ".." <+: final := by
  induction steps generalizing place with
  | nil =>
    cases walked
    exact above
  | cons step rest ih =>
    rw [walk?] at walked
    split at walked
    · exact ih (prefix_stepFrom step above) walked
    · cases walked

theorem stepFrom_replicate (height : Nat) :
    stepFrom (List.replicate height "..") ".." = List.replicate (height + 1) ".." := by
  cases height with
  | zero => rfl
  | succ height => simp [stepFrom, List.getLast?_replicate, List.replicate_succ']

theorem walk?_replicate {height steps : Nat} {rest final : List String}
    (walked : files.walk? (List.replicate height "..") (List.replicate steps ".." ++ rest) =
      some final) : files.walk? (List.replicate (height + steps) "..") rest = some final := by
  induction steps generalizing height with
  | zero => exact walked
  | succ steps ih =>
    rw [List.replicate_succ, List.cons_append, walk?] at walked
    split at walked
    · rw [stepFrom_replicate] at walked
      have onward := ih walked
      rwa [Nat.add_assoc, Nat.add_comm 1] at onward
    · cases walked

theorem exists_place_of_text? (read : files.text? path = some text) :
    ∃ place, files.walk? (pathStart path).1 (pathStart path).2 = some place ∧
      (place, text) ∈ files.texts := by
  rw [text?] at read
  split at read
  · rename_i content found
    cases read
    rw [get?] at found
    split at found
    · cases found
    · rcases Option.bind_eq_some_iff.mp found with ⟨place, walked, entry⟩
      split at entry
      · rename_i text known
        cases entry
        exact ⟨place, walked, mem_of_lookup known⟩
      · split at entry <;> cases entry
  · cases read
  · cases read

theorem length_le_height {place : List String} (known : (place, text) ∈ files.texts) :
    place.length ≤ files.height := by
  rw [height, List.foldl_max]
  refine Nat.le_trans (List.le_max?_getD_of_mem ?_) (Nat.le_max_right 0 _)
  exact List.mem_map.mpr ⟨_, known, rfl⟩

/-- Higher than any text there is nothing to read. -/
theorem le_height_of_upwards {steps : Nat} (read : files.text? (upwards steps path) = some text) :
    steps ≤ files.height := by
  cases steps with
  | zero => exact Nat.zero_le _
  | succ steps =>
    rcases exists_place_of_text? read with ⟨place, walked, known⟩
    rw [pathStart_upwards] at walked
    have onward :
        files.walk? (List.replicate (0 + (steps + 1)) "..") (pathSteps path) = some place :=
      walk?_replicate walked
    have above := (prefix_of_walk? (List.prefix_refl _) onward).length_le
    rw [List.length_replicate] at above
    have below := length_le_height known
    omega

theorem go_eq_some_iff {steps : Nat} :
    nearestText?.go files steps path = some text ↔
      ∃ height < steps, files.text? (upwards height path) = some text ∧
        ∀ lower < height, files.text? (upwards lower path) = none := by
  -- A step of the search puts one step upwards before the path, which shifts all heights by one.
  induction steps generalizing path with
  | zero => simp [nearestText?.go]
  | succ steps ih =>
    rw [nearestText?.go, Option.orElse_eq_orElse, Option.orElse_eq_or]
    cases here : files.text? path with
    | some found =>
      rw [Option.some_or, Option.some.injEq]
      constructor
      · rintro rfl
        exact ⟨0, Nat.succ_pos steps, here, fun lower lowerLt => absurd lowerLt (by omega)⟩
      · rintro ⟨height, _, there, before⟩
        cases height with
        | zero => exact Option.some.inj (here.symm.trans there)
        | succ height =>
          have missing := before 0 (Nat.succ_pos height)
          rw [upwards, here] at missing
          cases missing
    | none =>
      rw [Option.none_or, ih]
      constructor
      · rintro ⟨height, heightLt, there, before⟩
        refine ⟨height + 1, by omega, there, ?_⟩
        intro lower lowerLt
        cases lower with
        | zero => exact here
        | succ lower => exact before lower (by omega)
      · rintro ⟨height, heightLt, there, before⟩
        cases height with
        | zero =>
          rw [upwards, here] at there
          cases there
        | succ height =>
          refine ⟨height, by omega, there, ?_⟩
          intro lower lowerLt
          exact before (lower + 1) (by omega)

/-- A text is read from the nearest directory from where the path leads to one. -/
theorem nearestText?_eq_some_iff (relative : path.startsWith "/" = false) :
    files.nearestText? path = some text ↔
      ∃ height, files.text? (upwards height path) = some text ∧
        ∀ lower < height, files.text? (upwards lower path) = none := by
  rw [nearestText?, relative]
  refine go_eq_some_iff.trans ⟨?_, ?_⟩
  · rintro ⟨height, _, found⟩
    exact ⟨height, found⟩
  · rintro ⟨height, found⟩
    have bounded := le_height_of_upwards found.1
    exact ⟨height, by omega, found⟩

theorem nearestText?_of_text? (read : files.text? path = some text) :
    files.nearestText? path = some text := by
  rw [nearestText?]
  split
  · exact read
  · rw [nearestText?.go, read]
    rfl

theorem nearestText?_congr (relative : path.startsWith "/" = false)
    (same : ∀ steps, other.text? (upwards steps path) = files.text? (upwards steps path)) :
    other.nearestText? path = files.nearestText? path := by
  apply Option.ext
  intro text
  rw [nearestText?_eq_some_iff relative, nearestText?_eq_some_iff relative]
  simp only [same]

end Files

namespace Loader

variable {loader : Loader} {surroundings other : Surroundings} {files : List ConfigurationFile}
  {warnings : List LogEntry}

/-- The candidates that a search comes to: those before the first one whose main file is there, and
that one. -/
def consulted (files : Files) (candidates : List (ConfigurationFile × ConfigurationFile)) :
    List (ConfigurationFile × ConfigurationFile) :=
  candidates.takeWhile (fun (_, mainFile) => !files.holds mainFile.path) ++
    (candidates.find? fun (_, mainFile) => files.holds mainFile.path).toList

/-- The files that a loader looks for in order, whether they are there or not. -/
def asked (loader : Loader) (surroundings : Surroundings) : List ConfigurationFile :=
  match loader.file with
  | some path => [{ path := path }]
  | none =>
    (consulted surroundings.files (loader.candidates surroundings)).flatMap
      fun (profileFile, mainFile) => [profileFile, mainFile]

/-- The files that a loader visits in order: those it looks for that are there. -/
def visited (loader : Loader) (surroundings : Surroundings) : List ConfigurationFile :=
  (loader.asked surroundings).filter fun file => surroundings.files.holds file.path

theorem consulted_cons (files : Files) (profileFile mainFile : ConfigurationFile)
    (rest : List (ConfigurationFile × ConfigurationFile)) :
    consulted files ((profileFile, mainFile) :: rest) =
      (profileFile, mainFile) ::
        if files.holds mainFile.path then [] else consulted files rest := by
  cases there : files.holds mainFile.path <;> simp [consulted, there]

theorem visit_eq (files : Files) (candidates : List (ConfigurationFile × ConfigurationFile)) :
    (visit files candidates).1 =
      ((consulted files candidates).flatMap fun (profileFile, mainFile) =>
        [profileFile, mainFile]).filter fun file => files.holds file.path := by
  induction candidates with
  | nil => rfl
  | cons candidate rest ih =>
    rcases candidate with ⟨profileFile, mainFile⟩
    rw [visit, consulted_cons]
    cases profileThere : files.holds profileFile.path <;>
      cases mainThere : files.holds mainFile.path <;> simp [profileThere, mainThere, ih]

/-- An explicit file is visited alone. Otherwise the search decides. -/
theorem eq_visited_of_visitedFiles
    (found : loader.visitedFiles surroundings = .ok (files, warnings)) :
    files = loader.visited surroundings := by
  rw [visitedFiles] at found
  rw [visited, asked]
  cases fileEq : loader.file with
  | some path =>
    rw [fileEq] at found
    dsimp only at found ⊢
    split at found
    · cases found
    · rename_i there
      split at found
      · cases found
      · cases found
        simp only [Bool.not_eq_true', Bool.not_eq_false] at there
        simp [there]
  | none =>
    rw [fileEq] at found
    cases found
    rw [visit_eq]

/-- Other surroundings differ from the given ones only where a loader does not look: every path that
it looks for leads to the same, and a relative one that leads to a directory does so above the
working directory, too. -/
structure Unnoticed (loader : Loader) (surroundings other : Surroundings) : Prop where
  userDirectory_eq : other.userDirectory = surroundings.userDirectory
  environment_eq : other.environment = surroundings.environment
  asked_eq : ∀ file ∈ loader.asked surroundings,
    other.files.get? file.path = surroundings.files.get? file.path
  above_eq : ∀ file ∈ loader.asked surroundings, file.fixed = false →
    file.path.startsWith "/" = false → surroundings.files.get? file.path = some .directory →
      ∀ steps, other.files.text? (Files.upwards steps file.path) =
        surroundings.files.text? (Files.upwards steps file.path)

theorem visit_congr {files other : Files}
    {candidates : List (ConfigurationFile × ConfigurationFile)}
    (same : ∀ candidate ∈ consulted files candidates,
      other.holds candidate.1.path = files.holds candidate.1.path ∧
        other.holds candidate.2.path = files.holds candidate.2.path) :
    visit other candidates = visit files candidates := by
  induction candidates with
  | nil => rfl
  | cons candidate rest ih =>
    rcases candidate with ⟨profileFile, mainFile⟩
    rw [consulted_cons, List.forall_mem_cons] at same
    rcases same with ⟨⟨profileSame, mainSame⟩, restSame⟩
    rw [visit, visit, profileSame, mainSame]
    cases there : files.holds mainFile.path with
    | true => rfl
    | false =>
      rw [there] at restSame
      rw [ih (by simpa using restSame)]

namespace Unnoticed

theorem holds_eq (unnoticed : loader.Unnoticed surroundings other) {file : ConfigurationFile}
    (fileMem : file ∈ loader.asked surroundings) :
    other.files.holds file.path = surroundings.files.holds file.path := by
  rw [Files.holds, Files.holds, unnoticed.asked_eq file fileMem]

theorem candidates_eq (unnoticed : loader.Unnoticed surroundings other) :
    loader.candidates other = loader.candidates surroundings := by
  have fileEq (searchPath : SearchPath) (name : String) :
      searchPath.file other name = searchPath.file surroundings name := by
    cases searchPath <;> simp [SearchPath.file, SearchPath.resolve, unnoticed.userDirectory_eq]
  simp only [candidates, fileEq]

theorem visitedFiles_eq (unnoticed : loader.Unnoticed surroundings other) :
    loader.visitedFiles other = loader.visitedFiles surroundings := by
  rw [visitedFiles, visitedFiles]
  cases fileEq : loader.file with
  | some path =>
    have fileMem : { path := path } ∈ loader.asked surroundings := by
      rw [asked, fileEq]
      exact List.mem_singleton_self _
    have same := unnoticed.holds_eq fileMem
    dsimp only at same ⊢
    rw [same]
  | none =>
    have visitEq : visit other.files (loader.candidates surroundings) =
        visit surroundings.files (loader.candidates surroundings) := by
      apply visit_congr
      rintro ⟨profileFile, mainFile⟩ candidateMem
      have askedOfMem {file : ConfigurationFile} (among : file ∈ [profileFile, mainFile]) :
          file ∈ loader.asked surroundings := by
        rw [asked, fileEq]
        exact List.mem_flatMap.mpr ⟨_, candidateMem, among⟩
      exact ⟨unnoticed.holds_eq (askedOfMem (by simp)),
        unnoticed.holds_eq (askedOfMem (by simp))⟩
    dsimp only
    rw [unnoticed.candidates_eq, visitEq]

/-- A file that is visited is read with the same result. -/
theorem read?_eq (unnoticed : loader.Unnoticed surroundings other) {file : ConfigurationFile}
    (fileMem : file ∈ loader.visited surroundings) :
    file.read? other.files = file.read? surroundings.files := by
  rcases List.mem_filter.mp fileMem with ⟨askedMem, there⟩
  have same := unnoticed.asked_eq file askedMem
  have textEq : other.files.text? file.path = surroundings.files.text? file.path := by
    rw [Files.text?, Files.text?, same]
  rw [ConfigurationFile.read?, ConfigurationFile.read?]
  cases fixedEq : file.fixed with
  | true => simp only [if_true, textEq]
  | false =>
    have nearestEq : other.files.nearestText? file.path =
        surroundings.files.nearestText? file.path := by
      cases found : surroundings.files.get? file.path with
      | none => simp [Files.holds, found] at there
      | some entry =>
        cases entry with
        | file text =>
          have textFound : surroundings.files.text? file.path = some text := by
            rw [Files.text?, found]
          rw [Files.nearestText?_of_text? textFound,
            Files.nearestText?_of_text? (textEq.trans textFound)]
        | directory =>
          cases relative : file.path.startsWith "/" with
          | true => simp [Files.nearestText?, relative, textEq]
          | false =>
            exact Files.nearestText?_congr relative
              (unnoticed.above_eq file askedMem fixedEq relative found)
    simp only [Bool.false_eq_true, if_false, nearestEq]

theorem mapM_read?_eq (unnoticed : loader.Unnoticed surroundings other)
    (visits : ∀ file ∈ files, file ∈ loader.visited surroundings) :
    files.mapM (·.read? other.files) = files.mapM (·.read? surroundings.files) := by
  induction files with
  | nil => rfl
  | cons file rest ih =>
    rw [List.forall_mem_cons] at visits
    rw [List.mapM_cons, List.mapM_cons, unnoticed.read?_eq visits.1, ih visits.2]

/-- What a loader does not notice does not change what it loads. -/
theorem load_eq (unnoticed : loader.Unnoticed surroundings other) :
    loader.load other = loader.load surroundings := by
  rw [load, load, unnoticed.visitedFiles_eq]
  cases found : loader.visitedFiles surroundings with
  | error fault => rfl
  | ok result =>
    rcases result with ⟨files, warnings⟩
    have layeredEq : loader.layered? other files = loader.layered? surroundings files := by
      rw [layered?, layered?, unnoticed.environment_eq]
      rw [unnoticed.mapM_read?_eq (by simp [eq_visited_of_visitedFiles found])]
    simp only [bind, Except.bind, layeredEq]

end Unnoticed

end Loader

end Switchboard
