import Switchboard.Toml.Scalar
import Switchboard.Toml.Table

/-!
# Reading TOML

A document is a sequence of lines, each with a comment, a header, or a key and its value. Arrays
may run over several lines, inline tables may not.
-/

namespace Switchboard.Toml

/-- The text behind a comment at its beginning, if there is one. -/
def skipComment : List Char → List Char
  | '#' :: rest => rest.dropWhile isCommentCharacter
  | text => text

/-- A text without the blanks, comments and line ends before it, as far as the lines allow. -/
def skipTrivia : Nat → List Char → List Char
  | 0, text => skipSpace text
  | lines + 1, text =>
    match afterNewline? (skipComment (skipSpace text)) with
    | some rest => skipTrivia lines rest
    | none => skipSpace text

/-- The items of an array up to its closing bracket, as far as the steps allow, and the text behind
it. A comma may follow the last item. -/
def readItems? (readOne : List Char → Option (Document × List Char)) :
    Nat → List Char → Option (List Document × List Char)
  | 0, _ => none
  | steps + 1, text =>
    match skipTrivia steps text with
    | ']' :: rest => some ([], rest)
    | start => do
      let (item, rest) ← readOne start
      match skipTrivia steps rest with
      | ',' :: rest =>
        let (items, rest) ← readItems? readOne steps rest
        return (item :: items, rest)
      | ']' :: rest => return ([item], rest)
      | _ => none

/-- A dotted key, as the path to its table and the key in that table, with a value. -/
structure Assignment where
  path : List String
  key : String
  value : Document

/-- The key and the value at the beginning of a text, and the text behind them. -/
def readAssignment? (readOne : List Char → Option (Document × List Char)) (text : List Char) :
    Option (Assignment × List Char) := do
  let (keys, rest) ← readKey? text
  let (value, rest) ← readOne (skipSpace (← afterCharacter? '=' rest))
  return (⟨keys.dropLast, ← keys.getLast?, value⟩, skipSpace rest)

/-- The assignments of an inline table up to its closing brace, as far as the steps allow, and the
text behind it. -/
def readAssignments? (readOne : List Char → Option (Document × List Char)) :
    Nat → List Char → Option (List Assignment × List Char)
  | 0, _ => none
  | steps + 1, text => do
    let (assignment, rest) ← readAssignment? readOne text
    match rest with
    | ',' :: rest =>
      let (assignments, rest) ← readAssignments? readOne steps rest
      return (assignment :: assignments, rest)
    | '\x7d' :: rest => return ([assignment], rest)
    | _ => none

/-- The document of the assignments of an inline table. -/
def inlineTable? (assignments : List Assignment) : Option Document := do
  let entries ← assignments.foldlM (fun entries assignment =>
    Items.addAt assignment.path assignment.key assignment.value false entries) []
  return .table (Item.entriesToDocument entries)

/-- The value at the beginning of a text, with arrays and inline tables inside one another as far
as the levels allow, and the text behind it. -/
def readValue? (levels : Nat) (text : List Char) : Option (Document × List Char) :=
  match levels with
  | 0 =>
    match text with
    | '[' :: _ | '\x7b' :: _ => none
    | _ => readScalar? text
  | levels + 1 =>
    match text with
    | '[' :: rest => do
      let (items, rest) ← readItems? (readValue? levels) text.length rest
      return (.array items, rest)
    | '\x7b' :: rest =>
      match skipSpace rest with
      | '\x7d' :: rest => some (.table [], rest)
      | start => do
        let (assignments, rest) ← readAssignments? (readValue? levels) text.length start
        return (← inlineTable? assignments, rest)
    | _ => readScalar? text

/-- The text behind the end of a line, before which only blanks and a comment may stand. -/
def afterLine? (text : List Char) : Option (List Char) :=
  match skipComment (skipSpace text) with
  | [] => some []
  | rest => afterNewline? rest

/-- The lines that are read so far: what they have built, and the path of the open table. -/
structure Progress where
  items : Items
  path : List String

namespace Progress

/-- Opens the table that a header names. -/
def openHeader (progress : Progress) (series : Bool) (keys : List String) : Option Progress := do
  let key ← keys.getLast?
  let change := if series then Items.openSeries key else Items.openTable key
  let items ← Items.modifyAt false (fun _ => change) keys.dropLast false progress.items
  return ⟨items, keys⟩

/-- Puts a value into the open table. -/
def assign (progress : Progress) (assignment : Assignment) : Option Progress := do
  let items ← Items.modifyAt false (fun _ =>
    Items.addAt assignment.path assignment.key assignment.value false) progress.path false
    progress.items
  return ⟨items, progress.path⟩

end Progress

/-- The keys of a header behind its opening brackets, and the text behind its closing ones. -/
def readHeader? (series : Bool) (text : List Char) : Option (List String × List Char) := do
  let (keys, rest) ← readKey? text
  let rest ← afterCharacter? ']' rest
  let rest ← if series then afterCharacter? ']' rest else some rest
  return (keys, rest)

/-- What the lines of a text build, as far as the steps allow. -/
def readLinesFrom? : Nat → Progress → List Char → Option Progress
  | 0, _, _ => none
  | steps + 1, progress, text =>
    match skipSpace text with
    | [] => some progress
    | '#' :: rest => do readLinesFrom? steps progress (← afterLine? ('#' :: rest))
    | '\n' :: rest => readLinesFrom? steps progress rest
    | '\r' :: rest => do readLinesFrom? steps progress (← afterNewline? ('\r' :: rest))
    | '[' :: '[' :: rest => do
      let (keys, rest) ← readHeader? true rest
      readLinesFrom? steps (← progress.openHeader true keys) (← afterLine? rest)
    | '[' :: rest => do
      let (keys, rest) ← readHeader? false rest
      readLinesFrom? steps (← progress.openHeader false keys) (← afterLine? rest)
    | start => do
      let (assignment, rest) ← readAssignment? (readValue? (depthLimit - 1)) start
      readLinesFrom? steps (← progress.assign assignment) (← afterLine? rest)

/-- The document that a text in TOML describes. -/
def read? (text : String) : Option Document := do
  let characters := match text.toList with
    | '\uFEFF' :: rest => rest
    | characters => characters
  let progress ← readLinesFrom? (characters.length + 1) ⟨[], []⟩ characters
  return .table (Item.entriesToDocument progress.items)

end Switchboard.Toml
