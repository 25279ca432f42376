/-!
# Hexadecimal digits

The digits zero to nine and the letters from a to f in both cases.
-/

namespace Switchboard

/-- Whether a character is an ASCII hexadecimal digit of either case. -/
def isHexDigit (character : Char) : Bool :=
  character.isDigit || ('a' ≤ character && character ≤ 'f') ||
    ('A' ≤ character && character ≤ 'F')

/-- The number that a list of hexadecimal digits writes, most significant digit first. -/
def hexValue (digits : List Char) : Nat :=
  digits.foldl (fun value digit => 16 * value +
    if digit.isDigit then digit.toNat - '0'.toNat else digit.toLower.toNat - 'a'.toNat + 10) 0

end Switchboard
