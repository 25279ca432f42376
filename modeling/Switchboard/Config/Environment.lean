import Switchboard.Document.Merge
import Switchboard.Numeral.Decimal
import Switchboard.Text.Blank
import Switchboard.Text.Escape
import Switchboard.Text.Lowercase
import Switchboard.Text.Start

/-!
# Configuration in environment variables

The name of a variable says where in a configuration its value belongs, and the value is read as a
truth value, a number, a list, a table, a quoted text or a single quoted character. Around these
stand blanks of ASCII only. A value that is none of these as a whole is a text.
-/

namespace Switchboard.Environment

/-- Whether a character is a blank of ASCII. -/
def isASCIIBlank (character : Char) : Bool :=
  character == ' ' || character == '\t' || character == '\n' || character == '\x0c' ||
    character == '\r'

/-- A text without the blanks of ASCII before it. -/
def skipBlanks (text : List Char) : List Char :=
  text.dropWhile isASCIIBlank

/-- Whether a plain value goes on with a character. -/
def isPlainCharacter (character : Char) : Bool :=
  character != ',' && character != '\x7b' && character != '\x7d' && character != '[' &&
    character != ']'

/-- Whether a plain key may hold a character. -/
def isKeyCharacter (character : Char) : Bool :=
  character.isAlphanum || character == '_' || character == '-'

/-- The inner part of a quoted text up to the closing quote, as it is written, and the text behind
that quote. A character after a backslash never closes the text. -/
def quotedPart? : List Char → Option (List Char × List Char)
  | [] => none
  | '\x22' :: rest => some ([], rest)
  | '\\' :: escaped :: rest =>
    (quotedPart? rest).map fun (content, after) => ('\\' :: escaped :: content, after)
  | ['\\'] => none
  | character :: rest =>
    (quotedPart? rest).map fun (content, after) => (character :: content, after)

/-- The inner part of a quoted text with its escapes replaced. Control characters other than the
tabulator are not allowed. -/
def unescape? (text : List Char) : Option (List Char) :=
  match text with
  | [] => some []
  | '\\' :: rest =>
    match _found : readEscape? rest with
    | some (character, remaining) => (unescape? remaining).map (character :: ·)
    | none => none
  | character :: rest =>
    if character = '\t' ∨ (0x20 ≤ character.toNat ∧ character.toNat ≠ 0x7F) then
      (unescape? rest).map (character :: ·)
    else
      none
termination_by text.length
decreasing_by
  · have := length_readEscape?_lt ‹_›
    simp only [List.length_cons]
    omega
  · simp

/-- The text between double quotes at the beginning of a text, behind the opening one, and the text
behind it. -/
def readQuoted? (text : List Char) : Option (String × List Char) := do
  let (content, rest) ← quotedPart? text
  return (String.ofList (← unescape? content), rest)

/-- The value that a plain text writes. A number with a point is a float. -/
def readPlain (text : List Char) : Document :=
  let float? := if text.contains '.' then (readFloat text).toOption else none
  match float? with
  | some float => .float float
  | none =>
    match readNatural? text with
    | some value => .integer value
    | none =>
      match readInteger text with
      | .ok value => .integer value.toInt
      | .error _ => .text (String.ofList text)

/-- The items of a list up to its closing character, as far as the steps allow, and the text behind
it. A comma may follow the last item. -/
def readItems? {α : Type} (readOne : List Char → Option (α × List Char)) (close : Char) :
    Nat → List Char → Option (List α × List Char)
  | 0, _ => none
  | _ + 1, [] => none
  | steps + 1, first :: rest =>
    if first = close then
      some ([], rest)
    else do
      let (item, rest) ← readOne (first :: rest)
      match rest with
      | [] => none
      | separator :: rest =>
        if separator = ',' then do
          let (items, rest) ← readItems? readOne close steps rest
          return (item :: items, rest)
        else if separator = close then
          return ([item], rest)
        else
          none

/-- The key at the beginning of a text, and the text behind it. -/
def readKey? (text : List Char) : Option (String × List Char) :=
  match text with
  | '\x22' :: rest => readQuoted? rest
  | _ =>
    let word := text.takeWhile isKeyCharacter
    if word.isEmpty then
      none
    else
      some (String.ofList word, text.dropWhile isKeyCharacter)

/-- The key and the value of an entry of a table at the beginning of a text, and the text behind
them. -/
def readPair? (readOne : List Char → Option (Document × List Char)) (text : List Char) :
    Option ((String × Document) × List Char) := do
  let (key, rest) ← readKey? (skipBlanks text)
  match skipBlanks rest with
  | '=' :: rest =>
    let (value, rest) ← readOne (skipBlanks rest)
    return ((key, value), skipBlanks rest)
  | _ => none

/-- The value at the beginning of a text, with lists and tables inside one another as far as the
levels allow, and the text behind it. -/
def readValue? (levels : Nat) (text : List Char) : Option (Document × List Char) :=
  match levels with
  | 0 => none
  | levels + 1 => do
    let (value, rest) ← match skipBlanks text with
      | 't' :: 'r' :: 'u' :: 'e' :: rest => some (.boolean true, rest)
      | 'f' :: 'a' :: 'l' :: 's' :: 'e' :: rest => some (.boolean false, rest)
      | '\x7b' :: rest => do
        let (entries, rest) ← readItems? (readPair? (readValue? levels)) '\x7d' text.length rest
        let table := entries.foldl (fun (table : Entries) (key, value) =>
          table.insert key value) []
        pure (.table table, rest)
      | '[' :: rest => do
        let (items, rest) ← readItems? (readValue? levels) ']' text.length rest
        pure (.array items, rest)
      | '\x22' :: rest => do
        let (content, rest) ← readQuoted? rest
        pure (.text content, rest)
      | '\x27' :: character :: '\x27' :: rest =>
        some (.text (String.ofList [character]), rest)
      | '\x27' :: _ => none
      | start => some (readPlain (trim (start.takeWhile isPlainCharacter)),
          start.dropWhile isPlainCharacter)
    return (value, skipBlanks rest)

/-- The document that the value of a variable describes. -/
def readVariable (value : String) : Document :=
  let text := value.toList
  match readValue? (text.length + 1) text with
  | some (document, []) => document
  | _ => .text value

/-- The parts of a text between the occurrences of a mark. -/
def partsBetween (mark text : List Char) : List (List Char) :=
  go text.length [] text
where
  /-- The parts of a text behind the reversed beginning of the first one, as far as the steps
  allow. -/
  go : Nat → List Char → List Char → List (List Char)
    | _, pending, [] => [pending.reverse]
    | 0, pending, rest => [pending.reverse ++ rest]
    | steps + 1, pending, character :: rest =>
      match dropStart? mark (character :: rest) with
      | some remaining => pending.reverse :: go steps [] remaining
      | none => go steps (character :: pending) rest

/-- The lead of the names of variables that belong to a configuration, in lower case. -/
def nameLead : List Char :=
  "jelly_".toList

/-- The path into a configuration that the name of a variable spells behind its lead. Two
underscores or a point separate its parts, and no part may be empty. -/
def namePath? (name : String) : Option (List String) := do
  let rest ← dropStart? nameLead ((trim name.toList).map Char.toLower)
  let parts := (partsBetween ['_', '_'] (trim rest)).flatMap (partsBetween ['.'])
  if parts.any List.isEmpty then none else some (parts.map String.ofList)

/-- The document that holds a value at a path and nothing else. -/
def nest (value : Document) : List String → Document
  | [] => value
  | key :: rest => .table [(key, nest value rest)]

/-- The document that the variables describe together, later ones being merged into earlier ones. -/
def document (environment : List (String × String)) : Document :=
  Document.mergeList (.table []) (environment.filterMap fun (name, value) =>
    (namePath? name).map (nest (readVariable value)))

end Switchboard.Environment
