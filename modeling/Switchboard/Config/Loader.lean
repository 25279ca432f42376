import Switchboard.Config.Codec
import Switchboard.Config.Environment
import Switchboard.Config.Files
import Switchboard.Config.Profile
import Switchboard.Config.Validation
import Switchboard.Document.Merge
import Switchboard.Log
import Switchboard.Toml.Reader

/-!
# Loading a configuration

A configuration is put together from layers, each merged into those before it: the defaults,
configurations from the program, files, and environment variables. An explicit file is the only
file then. Otherwise directories are searched in order until a main file is found; a file for the
profile is read on the way wherever there is one. That a file is there is seen from the working
directory; its text may then come from a directory above it.
-/

namespace Switchboard

/-- The reasons for which there is no configuration. -/
inductive ConfigurationError where
  | fileNotFound (path : String)
  | unsupportedFormat (extension : String)
  | unreadable
  | invalid (fault : ConfigurationFault)
  deriving DecidableEq, Repr

namespace ConfigurationError

/-- The wording of an error. -/
def message : ConfigurationError → String
  | fileNotFound path => "Configuration file not found: " ++ path
  | unsupportedFormat extension =>
    "Unsupported or disabled configuration file format: ." ++ extension
  | unreadable => "Failed to parse configuration"
  | invalid fault => "Invalid configuration: " ++ fault.message

end ConfigurationError

namespace Configuration

/-- Fails with the first fault of a configuration. -/
def validate (configuration : Configuration) : Except ConfigurationError Unit :=
  match configuration.fault? with
  | some fault => .error (.invalid fault)
  | none => .ok ()

theorem validate_eq_ok_iff {configuration : Configuration} :
    configuration.validate = .ok () ↔ configuration.fault? = none := by
  unfold validate
  cases configuration.fault? <;> simp

end Configuration

/-- What a loader finds around it. -/
structure Surroundings where
  files : Files
  /-- The directory in which programs keep the configurations of the user. -/
  userDirectory : String
  /-- The environment variables in order. -/
  environment : List (String × String)

/-- A directory to be searched. -/
inductive SearchPath where
  | workingDirectory
  | userDirectory
  | directory (path : String)
  deriving DecidableEq, Repr

/-- A file that may hold a configuration. -/
structure ConfigurationFile where
  path : String
  /-- Whether the file stands at one place, wherever its path is read from. -/
  fixed : Bool := false
  deriving DecidableEq, Repr

namespace ConfigurationFile

/-- The document in a file that is there. What holds no text describes nothing. -/
def read? (file : ConfigurationFile) (files : Files) : Option Document :=
  let text? := if file.fixed then files.text? file.path else files.nearestText? file.path
  match text? with
  | some text => Toml.read? text
  | none => some (.table [])

end ConfigurationFile

namespace SearchPath

/-- The path of a directory to be searched. -/
def resolve (surroundings : Surroundings) : SearchPath → String
  | workingDirectory => "."
  | userDirectory => joinPath surroundings.userDirectory "jelly"
  | directory path => path

/-- Whether a directory to be searched is known by its place and not by a path. -/
def isFixed : SearchPath → Bool
  | workingDirectory | userDirectory => true
  | directory _ => false

/-- The file with a name in a directory to be searched. -/
def file (surroundings : Surroundings) (searchPath : SearchPath) (name : String) :
    ConfigurationFile :=
  ⟨joinPath (searchPath.resolve surroundings) name, searchPath.isFixed⟩

end SearchPath

/-- The sources of a configuration. -/
structure Loader where
  profile : Profile := .development
  /-- The directories to be searched; the usual ones if there are none. -/
  search : List SearchPath := []
  file : Option String := none
  merges : List Configuration := []
  useEnvironment : Bool := true

namespace Loader

/-- The variable that names the profile. -/
def profileVariable : String :=
  "JELLY_PROFILE"

/-- The loader that takes its profile from the environment and has no sources of its own. -/
def ofSurroundings (surroundings : Surroundings) : Loader where
  profile := match surroundings.environment.lookup profileVariable with
    | some name => .ofName name
    | none => .development

/-- The directories that a loader searches, in order. -/
def searchPaths (loader : Loader) : List SearchPath :=
  if loader.search.isEmpty then [.workingDirectory, .userDirectory] else loader.search

/-- The names of main files without their extension, in the order of the search. -/
def stems : List String :=
  ["jelly", "config"]

/-- For each directory and each stem, the file of the profile and the main file. -/
def candidates (loader : Loader) (surroundings : Surroundings) :
    List (ConfigurationFile × ConfigurationFile) :=
  loader.searchPaths.flatMap fun searchPath =>
    stems.map fun stem =>
      (searchPath.file surroundings (stem ++ "." ++ loader.profile.name ++ ".toml"),
        searchPath.file surroundings (stem ++ ".toml"))

/-- The files that a search reads in order, and whether it ends at a main file. -/
def visit (files : Files) :
    List (ConfigurationFile × ConfigurationFile) → List ConfigurationFile × Bool
  | [] => ([], false)
  | (profileFile, mainFile) :: rest =>
    let own := if files.holds profileFile.path then [profileFile] else []
    if files.holds mainFile.path then
      (own ++ [mainFile], true)
    else
      let (others, found) := visit files rest
      (own ++ others, found)

/-- The warning that a search has not found a main file. -/
def noFileWarning : LogEntry :=
  ⟨"No configuration file found, using defaults", []⟩

/-- The files that a loader reads in order, and what it warns about. -/
def visitedFiles (loader : Loader) (surroundings : Surroundings) :
    Except ConfigurationError (List ConfigurationFile × List LogEntry) :=
  match loader.file with
  | some path =>
    if !surroundings.files.holds path then
      .error (.fileNotFound path)
    else if fileExtension path ≠ "toml" then
      .error (.unsupportedFormat (fileExtension path))
    else
      .ok ([{ path := path }], [])
  | none =>
    let (files, found) := visit surroundings.files (loader.candidates surroundings)
    .ok (files, if found then [] else [noFileWarning])

/-- The document that the configurations from the program make together. They are merged into one
before they are merged into the defaults. -/
def program (loader : Loader) : Document :=
  Document.mergeList (.table []) (loader.merges.map Configuration.toDocument)

/-- The document that all layers make together. -/
def layered? (loader : Loader) (surroundings : Surroundings) (files : List ConfigurationFile) :
    Option Document := do
  let documents ← files.mapM (·.read? surroundings.files)
  let environment :=
    if loader.useEnvironment then [Environment.document surroundings.environment] else []
  return Document.mergeList (Configuration.toDocument {})
    (loader.program :: documents ++ environment)

/-- The configuration that a loader finds, and what it warns about. -/
def load (loader : Loader) (surroundings : Surroundings) :
    Except ConfigurationError (Configuration × List LogEntry) := do
  let (files, warnings) ← loader.visitedFiles surroundings
  match (loader.layered? surroundings files).bind (Configuration.ofDocument? true) with
  | some configuration => return (configuration, warnings)
  | none => throw .unreadable

end Loader

end Switchboard
