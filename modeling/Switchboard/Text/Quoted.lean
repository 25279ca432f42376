import Switchboard.Text.Quoted.Table

/-!
# Quoted text

A text between double quotes in which every character can be seen: the quote and the backslash
are escaped, the common control characters have short names, and every other character without a
visible form of its own is written by its code point.
-/

namespace Switchboard

/-- The lower-case hexadecimal digits of a number, without leading zeros. -/
def hexDigits (number : Nat) : List Char :=
  Nat.toDigits 16 number

/-- A character as quoted text writes it. -/
def quoteCharacter (character : Char) : List Char :=
  match character with
  | '\x00' => ['\\', '0']
  | '\t' => ['\\', 't']
  | '\r' => ['\\', 'r']
  | '\n' => ['\\', 'n']
  | '\x22' => ['\\', '\x22']
  | '\\' => ['\\', '\\']
  | _ =>
    if hiddenCharacters.contains character then
      ['\\', 'u', '\x7b'] ++ hexDigits character.toNat ++ ['\x7d']
    else
      [character]

/-- A string between double quotes, with escapes. -/
def quoted (text : String) : String :=
  String.ofList (['\x22'] ++ text.toList.flatMap quoteCharacter ++ ['\x22'])

end Switchboard
