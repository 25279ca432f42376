import Mathlib.Data.List.Sort
import Switchboard.Proofs.Config.Precedence

/-!
# Configurations from the program

A configuration is written in full, so it is read as it was, and of two configurations that are
merged the later one is left. The filters are the exception: they have no fixed keys, so those of
the earlier configuration stay unless the later one has the same key.
-/

namespace Switchboard

namespace Document

end Document

namespace Entries

variable {Value : Type} {name key : String} {value : Document} {rest : Entries} {absent : Value}
  {read? : Document → Option Value}

@[simp]
theorem optional?_cons_self :
    optional? ((name, value) :: rest) name absent read? = read? value := by
  simp [optional?]

end Entries

namespace LoggingSettings

end LoggingSettings

namespace Configuration

end Configuration

namespace TextMap

end TextMap

namespace Configuration

variable {configuration : Configuration}

end Configuration

namespace Loader

variable {loader : Loader} {surroundings : Surroundings} {warnings : List LogEntry}

/-- There is no explicit file, and nothing at the paths that a search asks for. -/
def FindsNothing (loader : Loader) (surroundings : Surroundings) : Prop :=
  loader.file = none ∧ ∀ candidate ∈ loader.candidates surroundings,
    surroundings.files.holds candidate.1.path = false ∧
      surroundings.files.holds candidate.2.path = false

instance (loader : Loader) (surroundings : Surroundings) :
    Decidable (loader.FindsNothing surroundings) :=
  inferInstanceAs (Decidable (_ ∧ _))

theorem visit_of_absent {files : Files}
    {candidates : List (ConfigurationFile × ConfigurationFile)}
    (absent : ∀ candidate ∈ candidates,
      files.holds candidate.1.path = false ∧ files.holds candidate.2.path = false) :
    visit files candidates = ([], false) := by
  induction candidates with
  | nil => rfl
  | cons candidate rest ih =>
    simp only [List.forall_mem_cons] at absent
    simp [visit, absent.1, ih absent.2]

theorem FindsNothing.visitedFiles_eq (nothing : loader.FindsNothing surroundings) :
    loader.visitedFiles surroundings = .ok ([], [noFileWarning]) := by
  simp [visitedFiles, nothing.1, visit_of_absent nothing.2]

/-- What a loader loads is what all its layers make together. -/
theorem load_eq_elim {files : List ConfigurationFile} {documents : List Document}
    (visits : loader.visitedFiles surroundings = .ok (files, warnings))
    (read : files.mapM (·.read? surroundings.files) = some documents) :
    loader.load surroundings =
      (Configuration.ofDocument? true ((Configuration.toDocument {}).mergeList
        (loader.program :: (documents ++ loader.environmentSources surroundings)))).elim
          (.error .unreadable) fun configuration => .ok (configuration, warnings) := by
  have layersEq : loader.layered? surroundings files =
      some ((Configuration.toDocument {}).mergeList
        (loader.program :: (documents ++ loader.environmentSources surroundings))) := by
    simp [layered?, read, environmentSources]
  rw [load, visits]
  dsimp only [bind, Except.bind]
  rw [layersEq, Option.bind_some]
  cases Configuration.ofDocument? true _ <;> rfl

end Loader

end Switchboard
