/-!
# Integers of 64 bits

Integers are written in decimal with an optional sign. Reading goes digit by digit, so of two
faults in a text the one that comes first is reported: a character that is no digit, or a digit
that takes the value out of the range of 64 bits.
-/

namespace Switchboard

/-- The reasons for which a text is not an integer of 64 bits. -/
inductive IntegerFault where
  | empty
  | invalidDigit
  | tooLarge
  | tooSmall
  deriving DecidableEq, Repr

namespace IntegerFault

/-- The wording of a fault. -/
def message : IntegerFault → String
  | empty => "cannot parse integer from empty string"
  | invalidDigit => "invalid digit found in string"
  | tooLarge => "number too large to fit in target type"
  | tooSmall => "number too small to fit in target type"

end IntegerFault

/-- The value of an ASCII decimal digit. -/
def digitValue? (character : Char) : Option Nat :=
  if character.isDigit then some (character.toNat - '0'.toNat) else none

/-- The magnitude that results from writing digits behind a magnitude, if it never exceeds a
limit. -/
def appendDigits (limit : Nat) (excess : IntegerFault) (magnitude : Nat) :
    List Char → Except IntegerFault Nat
  | [] => .ok magnitude
  | character :: rest =>
    match digitValue? character with
    | none => .error .invalidDigit
    | some digit =>
      let next := 10 * magnitude + digit
      if next ≤ limit then appendDigits limit excess next rest else .error excess

/-- The greatest integer of 64 bits. -/
def greatestInteger : Nat :=
  0x7FFFFFFFFFFFFFFF

/-- The magnitude of the least integer of 64 bits. -/
def leastMagnitude : Nat :=
  0x8000000000000000

/-- The greatest natural number of 64 bits. -/
def greatestNatural : Nat :=
  0xFFFFFFFFFFFFFFFF

/-- The integer that a text writes: an optional sign and one or more digits. -/
def readInteger : List Char → Except IntegerFault Int64
  | [] => .error .empty
  | ['+'] => .error .invalidDigit
  | ['-'] => .error .invalidDigit
  | '-' :: digits =>
    (appendDigits leastMagnitude .tooSmall 0 digits).map fun magnitude =>
      Int64.ofInt (-(magnitude : Int))
  | '+' :: digits =>
    (appendDigits greatestInteger .tooLarge 0 digits).map fun magnitude => Int64.ofNat magnitude
  | digits =>
    (appendDigits greatestInteger .tooLarge 0 digits).map fun magnitude => Int64.ofNat magnitude

/-- The number that a list of decimal digits writes, most significant digit first. -/
def digitsValue (digits : List Char) : Nat :=
  digits.foldl (fun value digit => 10 * value + (digit.toNat - '0'.toNat)) 0

/-- The number of 64 bits that a text writes: an optional plus sign and one or more digits. -/
def readNatural? (text : List Char) : Option Nat :=
  let digits := match text with
    | '+' :: rest => rest
    | rest => rest
  if digits.isEmpty || !digits.all Char.isDigit then
    none
  else
    let value := digitsValue digits
    if value ≤ greatestNatural then some value else none

/-- The decimal digits of a number, without leading zeros. -/
def decimalDigits (number : Nat) : List Char :=
  Nat.toDigits 10 number

/-- The decimal form of a number. -/
def naturalText (number : Nat) : String :=
  String.ofList (decimalDigits number)

/-- The decimal form of an integer, with a minus sign if it is negative. -/
def integerText (integer : Int) : String :=
  if integer < 0 then
    String.ofList ('-' :: decimalDigits integer.natAbs)
  else
    naturalText integer.natAbs

end Switchboard
