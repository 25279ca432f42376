import Switchboard.Text.Lowercase.Table

/-!
# Lower case

The full lower-case mapping of Unicode. Two characters need more than the table: the dotted
capital I, whose image has two characters, and the capital sigma, which becomes a final sigma at
the end of a word.
-/

namespace Switchboard

/-- The image of a character under the simple lower-case mapping. -/
def lowercaseSimple (character : Char) : Char :=
  match lowercaseRuns.findSome? (·.imageOf? character.toNat) with
  | some point => Char.ofNat point
  | none => character

/-- Whether the first character that is not case-ignorable is cased. -/
def startsCased (text : List Char) : Bool :=
  match text.dropWhile caseIgnorableCharacters.contains with
  | [] => false
  | character :: _ => casedCharacters.contains character

/-- The image of a character with the reversed text before it and the text after it. -/
def lowercaseBetween (before : List Char) (character : Char) (after : List Char) : List Char :=
  if character = '\u03A3' then
    if startsCased before && !startsCased after then ['\u03C2'] else ['\u03C3']
  else if character = '\u0130' then
    ['i', '\u0307']
  else
    [lowercaseSimple character]

/-- The image of a text that follows the given reversed text. -/
def lowercaseAfter (before : List Char) : List Char → List Char
  | [] => []
  | character :: rest =>
    lowercaseBetween before character rest ++ lowercaseAfter (character :: before) rest

/-- A string in lower case. -/
def lowercase (text : String) : String :=
  String.ofList (lowercaseAfter [] text.toList)

theorem lowercaseBetween_ne_nil (before : List Char) (character : Char) (after : List Char) :
    lowercaseBetween before character after ≠ [] := by
  unfold lowercaseBetween
  split
  · split <;> simp
  · split <;> simp

/-- Only the empty string has an empty lower-case form. -/
theorem lowercase_eq_empty_iff (text : String) : lowercase text = "" ↔ text = "" := by
  cases letters : text.toList with
  | nil => simp [lowercase, lowercaseAfter, String.toList_eq_nil_iff.mp letters]
  | cons character rest =>
    have filled : text ≠ "" := by
      rintro rfl
      simp at letters
    simp [lowercase, lowercaseAfter, letters, lowercaseBetween_ne_nil, filled]

/-- The lower-case form of an ASCII letter; other characters are left alone. -/
def lowercaseASCII (text : String) : String :=
  String.ofList (text.toList.map Char.toLower)

end Switchboard
