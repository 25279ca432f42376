import Switchboard.Text.Hexadecimal

/-!
# Escapes in quoted text

What may follow a backslash in quoted text: a letter for a control character, a quote, a
backslash, or the code point of a character in four or eight hexadecimal digits.
-/

namespace Switchboard

/-- The character at a code point, unless the point is beyond the last one or a surrogate. -/
def characterAt? (point : Nat) : Option Char :=
  if point < 0xD800 ∨ (0xDFFF < point ∧ point < 0x110000) then some (Char.ofNat point) else none

/-- The character whose code point stands at the beginning of a text in a given number of
hexadecimal digits, and the text behind it. -/
def readCodePoint? (length : Nat) (text : List Char) : Option (Char × List Char) :=
  let digits := text.take length
  if digits.length = length && digits.all isHexDigit then
    (characterAt? (hexValue digits)).map fun character => (character, text.drop length)
  else
    none

/-- The character that the text behind a backslash stands for, and the text behind it. -/
def readEscape? : List Char → Option (Char × List Char)
  | 'b' :: rest => some ('\x08', rest)
  | 'f' :: rest => some ('\x0c', rest)
  | 'n' :: rest => some ('\n', rest)
  | 'r' :: rest => some ('\r', rest)
  | 't' :: rest => some ('\t', rest)
  | '\x22' :: rest => some ('\x22', rest)
  | '\\' :: rest => some ('\\', rest)
  | 'u' :: rest => readCodePoint? 4 rest
  | 'U' :: rest => readCodePoint? 8 rest
  | _ => none

theorem length_readCodePoint?_le {length : Nat} {text remaining : List Char} {character : Char}
    (found : readCodePoint? length text = some (character, remaining)) :
    remaining.length ≤ text.length := by
  simp only [readCodePoint?] at found
  split at found
  · obtain ⟨_, _, same⟩ := Option.map_eq_some_iff.mp found
    obtain ⟨_, rfl⟩ := Prod.mk.inj same
    simp
  · simp at found

theorem length_readEscape?_lt {text remaining : List Char} {character : Char}
    (found : readEscape? text = some (character, remaining)) :
    remaining.length < text.length := by
  unfold readEscape? at found
  split at found <;> first
    | exact Nat.lt_succ_of_le (length_readCodePoint?_le found)
    | (obtain ⟨_, rfl⟩ := Prod.mk.inj (Option.some.inj found); simp)
    | simp at found

end Switchboard
