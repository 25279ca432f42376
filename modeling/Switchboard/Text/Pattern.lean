import Switchboard.Text.Alphanumeric
import Switchboard.Text.Escape

/-!
# Patterns

Which texts are regular expressions: characters and sets of characters in sequence, with
alternatives, groups and repetitions. What would need tables of Unicode, such as digits, words,
their boundaries or both cases of a letter, is not available, and neither are counted repetitions.
-/

namespace Switchboard.Pattern

/-- The character that the text behind a backslash stands for, or none if it stands for an end of
the text that is searched, and the text behind it. -/
def readEscape? : List Char → Option (Option Char × List Char)
  | [] => none
  | 'A' :: rest | 'z' :: rest => some (none, rest)
  | 'a' :: rest => some ('\x07', rest)
  | 'f' :: rest => some ('\x0c', rest)
  | 'n' :: rest => some ('\n', rest)
  | 'r' :: rest => some ('\r', rest)
  | 't' :: rest => some ('\t', rest)
  | 'v' :: rest => some ('\x0b', rest)
  | 'x' :: rest => (readCodePoint? 2 rest).map fun (character, rest) => (some character, rest)
  | 'u' :: rest => (readCodePoint? 4 rest).map fun (character, rest) => (some character, rest)
  | 'U' :: rest => (readCodePoint? 8 rest).map fun (character, rest) => (some character, rest)
  | character :: rest =>
    if character.toNat < 0x80 && !character.isAlphanum && character != '<' && character != '>' then
      some (character, rest)
    else
      none

/-- The text behind the opening of a set, its negation, and the hyphens or the closing bracket that
are its first members. -/
def skipSetOpening (text : List Char) : List Char :=
  let members := match text with
    | '^' :: rest => rest
    | _ => text
  match members with
  | ']' :: rest => rest
  | _ => members.dropWhile (· == '-')

/-- The member at the beginning of a text inside a set, and the text behind it. -/
def readMember? : List Char → Option (Char × List Char)
  | [] => none
  | '\\' :: rest =>
    match readEscape? rest with
    | some (some character, rest) => some (character, rest)
    | _ => none
  | character :: rest => some (character, rest)

/-- The text behind a set that is open with some sets around it, as far as the steps allow. Sets
stand inside one another and are joined by doubled signs, and the ends of a range must be in
order. -/
def skipSet? : Nat → Nat → List Char → Option (List Char)
  | 0, _, _ => none
  | _, _, [] => none
  | steps + 1, around, '[' :: rest => skipSet? steps (around + 1) (skipSetOpening rest)
  | steps + 1, around, ']' :: rest =>
    if around = 0 then some rest else skipSet? steps (around - 1) rest
  | steps + 1, around, '&' :: '&' :: rest
  | steps + 1, around, '-' :: '-' :: rest
  | steps + 1, around, '~' :: '~' :: rest => skipSet? steps around rest
  | steps + 1, around, text => do
    let (first, rest) ← readMember? text
    match rest with
    | '-' :: next :: more =>
      if next = ']' ∨ next = '-' then
        skipSet? steps around rest
      else
        let (last, rest) ← readMember? (next :: more)
        if first ≤ last then skipSet? steps around rest else none
    | _ => skipSet? steps around rest

/-- Whether a text can be the name of a group. -/
def isGroupName : List Char → Bool
  | [] => false
  | first :: others =>
    (first == '_' || (isAlphanumeric first && !first.isDigit)) &&
      others.all fun character =>
        isAlphanumeric character || ['_', '.', '[', ']'].contains character

/-- The text behind the name of a group and the bracket that closes it. -/
def skipGroupName? (text : List Char) : Option (List Char) :=
  match text.dropWhile (· != '>') with
  | [] => none
  | _ :: rest => if isGroupName (text.takeWhile (· != '>')) then some rest else none

/-- Whether a character is a flag. -/
def isFlag (character : Char) : Bool :=
  ['i', 'm', 's', 'U', 'u', 'R', 'x'].contains character

/-- Whether flags are the beginning of a group and not a part of their own, and the text behind
them. No flag stands twice, and one must follow a minus sign. -/
def readFlags? (text : List Char) : Option (Bool × List Char) :=
  let raised := text.takeWhile isFlag
  let (lowered?, rest) := match text.dropWhile isFlag with
    | '-' :: rest => (some (rest.takeWhile isFlag), rest.dropWhile isFlag)
    | rest => (none, rest)
  let all := raised ++ lowered?.getD []
  if raised.contains 'i' || lowered? == some [] || all.eraseDups.length != all.length then
    none
  else
    match rest with
    | ':' :: rest => some (true, rest)
    | ')' :: rest => if all.isEmpty then none else some (false, rest)
    | _ => none

/-- Whether the text behind an opening parenthesis is the beginning of a group and not a part of its
own, and the text behind that beginning. -/
def readGroupOpening? : List Char → Option (Bool × List Char)
  | '?' :: 'P' :: '<' :: rest | '?' :: '<' :: rest => (skipGroupName? rest).map (true, ·)
  | '?' :: rest => readFlags? rest
  | rest => some (true, rest)

/-- Whether a text goes on as a pattern inside some groups, as far as the steps allow. It may begin
with a repetition only if it follows something that can be repeated. -/
def goesOn : Nat → Nat → Bool → List Char → Bool
  | 0, _, _, _ => false
  | _, groups, _, [] => groups == 0
  | steps + 1, groups, repeatable, character :: rest =>
    match character with
    | '(' =>
      match readGroupOpening? rest with
      | some (true, rest) => goesOn steps (groups + 1) false rest
      | some (false, rest) => goesOn steps groups false rest
      | none => false
    | ')' => 0 < groups && goesOn steps (groups - 1) true rest
    | '|' => goesOn steps groups false rest
    | '*' | '+' | '?' => repeatable && goesOn steps groups true rest
    | '\x7b' => false
    | '[' =>
      match skipSet? steps 0 (skipSetOpening rest) with
      | some rest => goesOn steps groups true rest
      | none => false
    | '\\' =>
      match readEscape? rest with
      | some (_, rest) => goesOn steps groups true rest
      | none => false
    | _ => goesOn steps groups true rest

/-- Whether a text is a pattern. -/
def isPattern (text : String) : Bool :=
  goesOn (text.length + 1) 0 false text.toList

end Switchboard.Pattern
