import Switchboard.Numeral.Decimal

/-!
# Shortest decimal digits

Every real number in a certain interval around a double rounds to that double. The shortest digits
of a double are the fewest that lie in this interval, and of the candidates with that many digits
the nearest to the exact value. All comparisons are between natural numbers.
-/

namespace Switchboard

/-- A positive finite double as the exact value `mantissa * 2 ^ exponent`. -/
structure BinaryNumeral where
  mantissa : Nat
  exponent : Int
  /-- Whether the gap to the double below is half of the gap to the double above. -/
  narrowBelow : Bool
  deriving DecidableEq, Repr

namespace BinaryNumeral

/-- The bit that tells the sign of a double. -/
def signBit : Nat :=
  0x8000000000000000

/-- The first bit of the mantissa of a normal double, which is not written. -/
def hiddenBit : Nat :=
  0x10000000000000

/-- The magnitude of the double with the given bits. -/
def ofBits (bits : UInt64) : BinaryNumeral :=
  let field : Nat := bits.toNat % signBit / hiddenBit
  let fraction : Nat := bits.toNat % hiddenBit
  if field = 0 then
    ⟨fraction, -1074, false⟩
  else
    ⟨fraction + hiddenBit, (field : Int) - 1075, fraction = 0 && 1 < field⟩

/-- The numerator of the exact value. -/
def numerator (number : BinaryNumeral) : Nat :=
  number.mantissa * Nat.pow 2 number.exponent.toNat

/-- The denominator of the exact value. -/
def denominator (number : BinaryNumeral) : Nat :=
  Nat.pow 2 (-number.exponent).toNat

/-- Whether the decimal `digits * 10 ^ exponent` rounds to the given double. The ends of the
interval round to it when its mantissa is even. -/
def readsBack (number : BinaryNumeral) (digits : Nat) (exponent : Int) : Bool :=
  let quarter := number.exponent - 2
  let candidate := digits * Nat.pow 10 exponent.toNat * Nat.pow 2 (-quarter).toNat
  let unit := Nat.pow 2 quarter.toNat * Nat.pow 10 (-exponent).toNat
  let lower := (4 * number.mantissa - if number.narrowBelow then 1 else 2) * unit
  let upper := (4 * number.mantissa + 2) * unit
  if number.mantissa % 2 = 0 then
    lower ≤ candidate && candidate ≤ upper
  else
    lower < candidate && candidate < upper

/-- The least power of ten, by its exponent, that exceeds the value. -/
def scale (number : BinaryNumeral) : Int :=
  if number.denominator ≤ number.numerator then
    (decimalDigits (number.numerator / number.denominator)).length
  else
    1 - ((decimalDigits ((number.denominator - 1) / number.numerator)).length : Int)

/-- The nearest decimal on the grid `10 ^ exponent` that rounds to the given double. -/
def nearestOnGrid? (number : BinaryNumeral) (exponent : Int) : Option DecimalNumeral :=
  let numerator := number.numerator * Nat.pow 10 (-exponent).toNat
  let denominator := number.denominator * Nat.pow 10 exponent.toNat
  let below := numerator / denominator
  let above := below + 1
  match number.readsBack below exponent, number.readsBack above exponent with
  | true, true =>
    if 2 * numerator < (below + above) * denominator then
      some ⟨below, exponent⟩
    else
      some ⟨above, exponent⟩
  | true, false => some ⟨below, exponent⟩
  | false, true => some ⟨above, exponent⟩
  | false, false => none

/-- The exact value as a decimal. -/
def exactDecimal (number : BinaryNumeral) : DecimalNumeral :=
  if 0 ≤ number.exponent then
    ⟨number.numerator, 0⟩
  else
    ⟨number.mantissa * Nat.pow 5 number.exponent.natAbs, number.exponent⟩

/-- The decimal with the fewest digits that rounds to the given double. Seventeen digits always
suffice. -/
def shortest (number : BinaryNumeral) : DecimalNumeral :=
  let found := (List.range 17).findSome? fun count =>
    number.nearestOnGrid? (number.scale - (count + 1 : Nat))
  found.getD number.exactDecimal

end BinaryNumeral

namespace DecimalNumeral

/-- Digits without the zeros at their end, and how many there were, for digits in reverse. -/
def stripZeros : List Char → List Char × Nat
  | '0' :: rest =>
    let (digits, count) := stripZeros rest
    (digits, count + 1)
  | digits => (digits, 0)

/-- Positional notation, without an exponent and without zeros behind the last digit of a
fraction. -/
def positional (numeral : DecimalNumeral) : List Char :=
  let (reversed, count) := stripZeros (decimalDigits numeral.digits).reverse
  let digits := reversed.reverse
  let exponent := numeral.exponent + count
  let places := (-exponent).toNat
  if 0 ≤ exponent then
    digits ++ List.replicate exponent.toNat '0'
  else if places < digits.length then
    digits.take (digits.length - places) ++ ['.'] ++ digits.drop (digits.length - places)
  else
    ['0', '.'] ++ List.replicate (places - digits.length) '0' ++ digits

end DecimalNumeral

/-- The text of a double: its shortest digits in positional notation. The sign of zero is kept. -/
def floatText (float : Float) : String :=
  if float.isNaN then
    "NaN"
  else
    let bits := float.toBits
    let sign := if BinaryNumeral.signBit ≤ bits.toNat then ['-'] else []
    let magnitude :=
      if float.isInf then
        "inf".toList
      else if bits.toNat % BinaryNumeral.signBit = 0 then
        ['0']
      else
        (BinaryNumeral.ofBits bits).shortest.positional
    String.ofList (sign ++ magnitude)

/-- The sixteen hexadecimal digits of the bits of a double. -/
def floatBitsText (float : Float) : String :=
  let digits := Nat.toDigits 16 float.toBits.toNat
  String.ofList (List.replicate (16 - digits.length) '0' ++ digits)

end Switchboard
