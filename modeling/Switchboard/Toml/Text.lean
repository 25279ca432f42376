import Switchboard.Text.Escape

/-!
# Strings and keys of TOML

Strings stand between double quotes, with escapes, or between single quotes, without. Three quotes
instead of one open a string of several lines. Keys are bare words or strings of one line, and a
dotted key is a path of keys.
-/

namespace Switchboard.Toml

/-- Whether a character is a blank within a line. -/
def isSpace (character : Char) : Bool :=
  character == ' ' || character == '\t'

/-- Whether a character lies outside ASCII. -/
def isBeyondASCII (character : Char) : Bool :=
  0x80 ≤ character.toNat

/-- Whether a comment may hold a character. -/
def isCommentCharacter (character : Char) : Bool :=
  character == '\t' || (0x20 ≤ character.toNat && character.toNat ≤ 0x7E) ||
    isBeyondASCII character

/-- Whether a string between double quotes may hold a character as it is. -/
def isBasicCharacter (character : Char) : Bool :=
  isCommentCharacter character && character != '\x22' && character != '\\'

/-- Whether a string between single quotes may hold a character. -/
def isLiteralCharacter (character : Char) : Bool :=
  isCommentCharacter character && character != '\x27'

/-- Whether a bare key may hold a character. -/
def isBareCharacter (character : Char) : Bool :=
  character.isAlphanum || character == '-' || character == '_'

/-- A text without the blanks within a line before it. -/
def skipSpace (text : List Char) : List Char :=
  text.dropWhile isSpace

/-- The text behind a line end. -/
def afterNewline? : List Char → Option (List Char)
  | '\n' :: rest => some rest
  | '\r' :: '\n' :: rest => some rest
  | _ => none

theorem length_afterNewline?_lt {text remaining : List Char}
    (found : afterNewline? text = some remaining) : remaining.length < text.length := by
  unfold afterNewline? at found
  split at found
  · obtain rfl := Option.some.inj found
    exact Nat.lt_succ_self _
  · obtain rfl := Option.some.inj found
    simp only [List.length_cons]
    omega
  · cases found

/-- The content of a string of one line between double quotes, and the text behind it. -/
def readBasic? (text : List Char) : Option (List Char × List Char) :=
  match text with
  | [] => none
  | '\x22' :: rest => some ([], rest)
  | '\\' :: rest =>
    match _found : readEscape? rest with
    | some (character, remaining) =>
      (readBasic? remaining).map fun (content, after) => (character :: content, after)
    | none => none
  | character :: rest =>
    if isBasicCharacter character then
      (readBasic? rest).map fun (content, after) => (character :: content, after)
    else
      none
termination_by text.length
decreasing_by
  · have := length_readEscape?_lt ‹_›
    simp only [List.length_cons]
    omega
  · simp

/-- The content of a string of one line between single quotes, and the text behind it. -/
def readLiteral? : List Char → Option (List Char × List Char)
  | [] => none
  | '\x27' :: rest => some ([], rest)
  | character :: rest =>
    if isLiteralCharacter character then
      (readLiteral? rest).map fun (content, after) => (character :: content, after)
    else
      none

/-- The text behind a backslash at the end of a line: the rest of the line, which has to be blank,
and all blanks and line ends after it are left out. -/
def afterContinuation? (text : List Char) : Option (List Char) :=
  (afterNewline? (skipSpace text)).map skipLines
where
  /-- A text without the blanks and line ends before it. -/
  skipLines : List Char → List Char
    | '\r' :: '\n' :: rest => skipLines rest
    | '\n' :: rest => skipLines rest
    | ' ' :: rest => skipLines rest
    | '\t' :: rest => skipLines rest
    | rest => rest

theorem length_skipLines_le (text : List Char) :
    (afterContinuation?.skipLines text).length ≤ text.length := by
  fun_induction afterContinuation?.skipLines text <;> simp_all <;> omega

theorem length_afterContinuation?_lt {text remaining : List Char}
    (found : afterContinuation? text = some remaining) : remaining.length < text.length := by
  obtain ⟨after, newline, rfl⟩ := Option.map_eq_some_iff.mp found
  have shorter := length_afterNewline?_lt newline
  have skipped := length_skipLines_le after
  have spaces : (skipSpace text).length ≤ text.length :=
    (List.dropWhile_sublist isSpace).length_le
  omega

/-- The one or two quotes that may stand right before the three closing ones, where the three are
taken first. -/
def closingQuotes (quote : Char) : List Char → List Char × List Char
  | first :: second :: rest =>
    if first = quote then
      if second = quote then ([quote, quote], rest) else ([quote], second :: rest)
    else
      ([], first :: second :: rest)
  | [first] => if first = quote then ([quote], []) else ([], [first])
  | [] => ([], [])

/-- The text behind three quotes. -/
def afterThree? (quote : Char) : List Char → Option (List Char)
  | first :: second :: third :: rest =>
    if first = quote ∧ second = quote ∧ third = quote then some rest else none
  | _ => none

/-- The content of a string of several lines, and the text behind it. Line ends become single line
feeds. -/
def readLines? (escapes : Bool) (quote : Char) (text : List Char) :
    Option (List Char × List Char) :=
  match text with
  | [] => none
  | character :: rest =>
    match afterThree? quote (character :: rest) with
    | some after => some (closingQuotes quote after)
    | none =>
      match _newline : afterNewline? (character :: rest) with
      | some after =>
        (readLines? escapes quote after).map fun (content, after) => ('\n' :: content, after)
      | none =>
        if escapes && character == '\\' then
          match _continued : afterContinuation? rest with
          | some after => readLines? escapes quote after
          | none =>
            match _escaped : readEscape? rest with
            | some (character, after) =>
              (readLines? escapes quote after).map fun (content, after) =>
                (character :: content, after)
            | none => none
        else if isCommentCharacter character then
          (readLines? escapes quote rest).map fun (content, after) => (character :: content, after)
        else
          none
termination_by text.length
decreasing_by
  · exact length_afterNewline?_lt ‹_›
  · have := length_afterContinuation?_lt ‹_›
    simp only [List.length_cons]
    omega
  · have := length_readEscape?_lt ‹_›
    simp only [List.length_cons]
    omega
  · simp

/-- The text without the line end that may follow the opening quotes. -/
def skipFirstNewline (text : List Char) : List Char :=
  (afterNewline? text).getD text

/-- The string at the beginning of a text, and the text behind it. -/
def readString? (text : List Char) : Option (String × List Char) :=
  let content := match text with
    | '\x22' :: '\x22' :: '\x22' :: rest => readLines? true '\x22' (skipFirstNewline rest)
    | '\x27' :: '\x27' :: '\x27' :: rest => readLines? false '\x27' (skipFirstNewline rest)
    | '\x22' :: rest => readBasic? rest
    | '\x27' :: rest => readLiteral? rest
    | _ => none
  content.map fun (characters, rest) => (String.ofList characters, rest)

/-- The key at the beginning of a text, and the text behind it. -/
def readSimpleKey? (text : List Char) : Option (String × List Char) :=
  let content := match text with
    | '\x22' :: rest => readBasic? rest
    | '\x27' :: rest => readLiteral? rest
    | _ =>
      let word := text.takeWhile isBareCharacter
      if word.isEmpty then none else some (word, text.dropWhile isBareCharacter)
  content.map fun (characters, rest) => (String.ofList characters, rest)

/-- The greatest number of parts of a dotted key, and of values inside one another, plus one. -/
def depthLimit : Nat :=
  80

/-- The parts of a dotted key of a limited number of parts, and the text behind it. -/
def readKeyWithin? : Nat → List Char → Option (List String × List Char)
  | 0, _ => none
  | parts + 1, text => do
    let (key, rest) ← readSimpleKey? (skipSpace text)
    match skipSpace rest with
    | '.' :: rest =>
      let (keys, rest) ← readKeyWithin? parts rest
      return (key :: keys, rest)
    | rest => return ([key], rest)

/-- The parts of the dotted key at the beginning of a text, and the text behind it and its
blanks. -/
def readKey? (text : List Char) : Option (List String × List Char) :=
  readKeyWithin? (depthLimit - 1) text

end Switchboard.Toml
