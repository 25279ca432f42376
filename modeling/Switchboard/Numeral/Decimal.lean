import Switchboard.Numeral.Integer

/-!
# Decimal numerals for doubles

A numeral has a sign, digits around an optional point, and an optional exponent. Its value is
exact; converting it to a double rounds once, to the nearest double with ties to the even one.
The words for infinity and for the undefined value are numerals too.
-/

namespace Switchboard

/-- The exact value `digits * 10 ^ exponent`. -/
structure DecimalNumeral where
  digits : Nat
  exponent : Int
  deriving DecidableEq, Repr

namespace DecimalNumeral

/-- The double nearest to a numeral. Values beyond the range of the doubles are answered without
forming the power of ten. -/
def toFloat (numeral : DecimalNumeral) : Float :=
  let magnitude := (decimalDigits numeral.digits).length + numeral.exponent
  if numeral.digits = 0 ∨ magnitude < -400 then
    0.0
  else if 400 < magnitude then
    1.0 / 0.0
  else if numeral.exponent < 0 then
    Float.ofScientific numeral.digits true numeral.exponent.natAbs
  else
    Float.ofScientific numeral.digits false numeral.exponent.natAbs

end DecimalNumeral

/-- The exponent that a text writes: the letter, an optional sign, and one or more digits. The
empty text is the exponent zero. -/
def readExponent? : List Char → Option Int
  | [] => some 0
  | letter :: rest =>
    if letter = 'e' ∨ letter = 'E' then
      let (negative, digits) := match rest with
        | '-' :: digits => (true, digits)
        | '+' :: digits => (false, digits)
        | digits => (false, digits)
      if digits.isEmpty || !digits.all Char.isDigit then
        none
      else if negative then
        some (-(digitsValue digits : Int))
      else
        some (digitsValue digits)
    else
      none

/-- The numeral without a sign that a text writes. A point may stand at either end of the digits,
but a digit must be present. -/
def readDecimal? (text : List Char) : Option DecimalNumeral :=
  let whole := text.takeWhile Char.isDigit
  let afterWhole := text.dropWhile Char.isDigit
  let (fraction, afterFraction) := match afterWhole with
    | '.' :: rest => (rest.takeWhile Char.isDigit, rest.dropWhile Char.isDigit)
    | rest => ([], rest)
  if whole.isEmpty && fraction.isEmpty then
    none
  else
    (readExponent? afterFraction).map fun exponent =>
      ⟨digitsValue (whole ++ fraction), exponent - fraction.length⟩

/-- The double that a text without a sign writes, in digits or in words. -/
def readMagnitude? (text : List Char) : Option Float :=
  match readDecimal? text with
  | some numeral => some numeral.toFloat
  | none =>
    let word := String.ofList (text.map Char.toLower)
    if word = "inf" ∨ word = "infinity" then
      some (1.0 / 0.0)
    else if word = "nan" then
      some (0.0 / 0.0)
    else
      none

/-- The reasons for which a text is not a number. -/
inductive FloatFault where
  | empty
  | invalid
  deriving DecidableEq, Repr

namespace FloatFault

/-- The wording of a fault. -/
def message : FloatFault → String
  | empty => "cannot parse float from empty string"
  | invalid => "invalid float literal"

end FloatFault

/-- The double that a text writes, with an optional sign. -/
def readFloat (text : List Char) : Except FloatFault Float :=
  let answer (magnitude : Option Float) : Except FloatFault Float :=
    match magnitude with
    | some float => .ok float
    | none => .error .invalid
  match text with
  | [] => .error .empty
  | '-' :: rest => answer ((readMagnitude? rest).map fun float => -float)
  | '+' :: rest => answer (readMagnitude? rest)
  | rest => answer (readMagnitude? rest)

end Switchboard
