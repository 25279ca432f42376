/-!
# Files

The texts of files by their places, and the directories that were made for them. Paths are read
step by step, so a path through something that is not a directory leads nowhere.
-/

namespace Switchboard

/-- What a path leads to. -/
inductive FileEntry where
  | file (text : String)
  | directory
  deriving DecidableEq, Repr

/-- The steps of a path, among them the empty ones that repeated slashes make. -/
def pathSteps (path : String) : List String :=
  go [] path.toList
where
  /-- The steps of a path behind the reversed beginning of the first one. -/
  go (pending : List Char) : List Char → List String
    | [] => [String.ofList pending.reverse]
    | character :: rest =>
      if character = '/' then
        String.ofList pending.reverse :: go [] rest
      else
        go (character :: pending) rest

/-- The place that a step leads to from a directory. A place is given by its steps from the working
directory, the first of which may lead upwards or to the root of the file system. -/
def stepFrom (place : List String) (step : String) : List String :=
  if step = "" ∨ step = "." then
    place
  else if step = ".." then
    match place.getLast? with
    | none | some ".." => place ++ [".."]
    | some "/" => place
    | some _ => place.dropLast
  else
    place ++ [step]

/-- The place where a path starts, and its steps from there. -/
def pathStart (path : String) : List String × List String :=
  match pathSteps path with
  | "" :: rest => (["/"], rest)
  | steps => ([], steps)

/-- The place that a path leads to if all its steps exist. -/
def placeOf (path : String) : List String :=
  let (start, steps) := pathStart path
  steps.foldl stepFrom start

/-- Whether a step can name a file or a directory. -/
def canBeName (step : String) : Bool :=
  !step.toList.contains '\x00' && step.utf8ByteSize ≤ 255

/-- The files that are known, the latest first, and the directories that were made for them. -/
structure Files where
  texts : List (List String × String) := []
  directories : List (List String) := []
  deriving DecidableEq, Repr

namespace Files

/-- Whether a place is a directory. Besides those that were made, these are the working directory,
the directories above it, and the root of the file system. -/
def isDirectory (files : Files) (place : List String) : Bool :=
  place.all (· == "..") || place == ["/"] || files.directories.contains place

/-- The files with all directories that steps lead through from a place, and the place that they
lead to. There are none if a file is in the way. -/
def makeDirectories? (files : Files) (place : List String) :
    List String → Option (Files × List String)
  | [] => some (files, place)
  | step :: rest =>
    let next := stepFrom place step
    if canBeName step && (files.texts.lookup next).isNone then
      makeDirectories? { files with directories := next :: files.directories } next rest
    else
      none

/-- The files with the directories that the path of a file leads through, and the place of that
file. There are none if the file cannot be opened for writing. -/
def openFile? (files : Files) (path : String) : Option (Files × List String) := do
  let (start, steps) := pathStart path
  let name ← steps.getLast?
  let (files, directory) ← files.makeDirectories? start steps.dropLast
  let place := directory ++ [name]
  if canBeName name && !files.isDirectory place then some (files, place) else none

/-- The files with a text at a path. A text that cannot be written is left out. -/
def write (files : Files) (path text : String) : Files :=
  match files.openFile? path with
  | some (files, place) => { files with texts := (place, text) :: files.texts }
  | none => files

/-- The files with the given paths and texts, written in order. -/
def ofList (files : List (String × String)) : Files :=
  files.foldl (fun written (path, text) => written.write path text) {}

/-- The place that steps lead to from a place, if every step starts from a directory. -/
def walk? (files : Files) (place : List String) : List String → Option (List String)
  | [] => some place
  | step :: rest =>
    if files.isDirectory place then files.walk? (stepFrom place step) rest else none

/-- What a path leads to. -/
def get? (files : Files) (path : String) : Option FileEntry :=
  if path = "" then
    none
  else
    let (start, steps) := pathStart path
    (files.walk? start steps).bind fun place =>
      match files.texts.lookup place with
      | some text => some (.file text)
      | none => if files.isDirectory place then some .directory else none

/-- Whether a path leads to anything. -/
def holds (files : Files) (path : String) : Bool :=
  (files.get? path).isSome

/-- The text of the file that a path leads to. -/
def text? (files : Files) (path : String) : Option String :=
  match files.get? path with
  | some (.file text) => some text
  | some .directory | none => none

/-- A number of steps upwards above which no file is known. -/
def height (files : Files) : Nat :=
  (files.texts.map fun (place, _) => place.length).foldl max 0

/-- The text of the file that a path leads to. From the working directory a relative path may lead
to no file; then the nearest directory above it counts from where the path leads to one. -/
def nearestText? (files : Files) (path : String) : Option String :=
  if path.startsWith "/" then files.text? path else go (files.height + 1) path
where
  /-- The text that a path leads to, or that path behind some steps upwards. -/
  go : Nat → String → Option String
    | 0, _ => none
    | steps + 1, path => files.text? path <|> go steps ("../" ++ path)

end Files

/-- The path of a file in a directory. -/
def joinPath (directory name : String) : String :=
  if directory.isEmpty then name else directory ++ "/" ++ name

/-- The last step of a path that names something, unless it leads upwards. -/
def fileName? (path : String) : Option String :=
  match ((pathSteps path).filter fun step => step != "" && step != ".").getLast? with
  | some name => if name = ".." then none else some name
  | none => none

/-- The part of the name of a path behind its last point. A point at the beginning of the name does
not count. -/
def fileExtension (path : String) : String :=
  match fileName? path with
  | none => ""
  | some name =>
    let reversed := name.toList.reverse
    let extension := reversed.takeWhile (· != '.')
    if extension.length + 1 < reversed.length then String.ofList extension.reverse else ""

end Switchboard
