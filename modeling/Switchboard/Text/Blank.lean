import Switchboard.Text.CharacterClass

/-!
# Blank characters

Blank characters are those with the Unicode property `White_Space`. Trimming takes them from both
ends of a text, and a text is blank when trimming leaves nothing.
-/

namespace Switchboard

/-- The characters with the Unicode property `White_Space`. -/
def blankCharacters : CharacterClass :=
  ⟨[(0x9, 0xD), (0x20, 0x20), (0x85, 0x85), (0xA0, 0xA0), (0x1680, 0x1680), (0x2000, 0x200A),
    (0x2028, 0x2029), (0x202F, 0x202F), (0x205F, 0x205F), (0x3000, 0x3000)]⟩

/-- Whether a character is blank. -/
def isBlank (character : Char) : Bool :=
  blankCharacters.contains character

/-- A text without the blank characters it begins with. -/
def trimStart (text : List Char) : List Char :=
  text.dropWhile isBlank

/-- A text without the blank characters it ends with. -/
def trimEnd (text : List Char) : List Char :=
  (text.reverse.dropWhile isBlank).reverse

/-- A text without the blank characters at both ends. -/
def trim (text : List Char) : List Char :=
  trimEnd (trimStart text)

/-- The string between the blank characters at both ends of a string. -/
def trimString (text : String) : String :=
  String.ofList (trim text.toList)

/-- Whether a string holds blank characters only. -/
def isBlankString (text : String) : Bool :=
  text.toList.all isBlank

end Switchboard
