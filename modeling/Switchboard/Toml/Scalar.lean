import Switchboard.Document.Basic
import Switchboard.Numeral.Decimal
import Switchboard.Toml.Text

/-!
# Numbers, dates and truth values of TOML

Digits of numbers may be separated by single underscores. A date, a time or both are kept in a
normal form, as the only entry of a table under a reserved key.
-/

namespace Switchboard.Toml

/-- The digits at the beginning of a text, where a single underscore may separate two of them,
and the text behind them. -/
def digitsWhile (isDigit : Char → Bool) : List Char → List Char × List Char
  | '_' :: digit :: rest =>
    if isDigit digit then
      let (digits, after) := digitsWhile isDigit rest
      (digit :: digits, after)
    else
      ([], '_' :: digit :: rest)
  | digit :: rest =>
    if isDigit digit then
      let (digits, after) := digitsWhile isDigit rest
      (digit :: digits, after)
    else
      ([], digit :: rest)
  | [] => ([], [])

/-- One or more digits at the beginning of a text, and the text behind them. -/
def readDigits? (isDigit : Char → Bool) : List Char → Option (List Char × List Char)
  | first :: rest =>
    if isDigit first then
      let (digits, after) := digitsWhile isDigit rest
      some (first :: digits, after)
    else
      none
  | [] => none

/-- The sign at the beginning of a text, and the text behind it. -/
def readSign : List Char → Option Char × List Char
  | '+' :: rest => (some '+', rest)
  | '-' :: rest => (some '-', rest)
  | rest => (none, rest)

/-- The digits of a decimal number, which has no leading zeros, and the text behind them. -/
def readWhole? : List Char → Option (List Char × List Char)
  | '0' :: rest => some (['0'], rest)
  | text => readDigits? Char.isDigit text

/-- The document of an integer of 64 bits. -/
def integerDocument? (value : Int) : Option Document :=
  if -leastMagnitude ≤ value ∧ value ≤ greatestInteger then some (.integer value) else none

/-- The integer that digits in a base write, and the text behind it. -/
def readInBase? (base : Nat) (isDigit : Char → Bool) (text : List Char) :
    Option (Document × List Char) := do
  let (digits, rest) ← readDigits? isDigit text
  let value := digits.foldl (fun value digit => base * value + hexValue [digit]) 0
  return (← integerDocument? value, rest)

/-- The integer at the beginning of a text, and the text behind it. -/
def readInteger? (text : List Char) : Option (Document × List Char) :=
  match text with
  | '0' :: 'x' :: rest => readInBase? 16 isHexDigit rest
  | '0' :: 'o' :: rest => readInBase? 8 (fun digit => '0' ≤ digit && digit ≤ '7') rest
  | '0' :: 'b' :: rest => readInBase? 2 (fun digit => digit == '0' || digit == '1') rest
  | _ => do
    let (sign, digits) := readSign text
    let (digits, rest) ← readWhole? digits
    let magnitude : Int := digitsValue digits
    return (← integerDocument? (if sign = some '-' then -magnitude else magnitude), rest)

/-- The fraction at the beginning of a text with its point, and the text behind it. -/
def readFraction? : List Char → Option (List Char × List Char)
  | '.' :: rest =>
    (readDigits? Char.isDigit rest).map fun (digits, after) => ('.' :: digits, after)
  | _ => none

/-- The exponent at the beginning of a text with its letter, and the text behind it. -/
def readPower? : List Char → Option (List Char × List Char)
  | letter :: rest =>
    if letter = 'e' ∨ letter = 'E' then
      let (sign, digits) := readSign rest
      (readDigits? Char.isDigit digits).map fun (digits, after) =>
        ('e' :: sign.toList ++ digits, after)
    else
      none
  | [] => none

/-- The float in digits at the beginning of a text, and the text behind it. A float has a fraction
or an exponent, and does not exceed the greatest double. -/
def readDigitFloat? (text : List Char) : Option (Document × List Char) := do
  let (sign, digits) := readSign text
  let (whole, rest) ← readWhole? digits
  let (tail, rest) ← match readFraction? rest with
    | some (fraction, rest) =>
      match readPower? rest with
      | some (power, rest) => some (fraction ++ power, rest)
      | none => some (fraction, rest)
    | none => readPower? rest
  match readFloat (sign.toList ++ whole ++ tail) with
  | .ok value => if value == 1.0 / 0.0 then none else return (.float value, rest)
  | .error _ => none

/-- The infinity or the undefined value at the beginning of a text, and the text behind it. -/
def readWordFloat? (text : List Char) : Option (Document × List Char) :=
  let (sign, word) := readSign text
  let signed (value : Float) : Document := .float (if sign = some '-' then -value else value)
  match word with
  | 'i' :: 'n' :: 'f' :: rest => some (signed (1.0 / 0.0), rest)
  | 'n' :: 'a' :: 'n' :: rest => some (signed (0.0 / 0.0), rest)
  | _ => none

/-- A number of exactly so many digits at the beginning of a text, and the text behind it. -/
def readFixed? (length : Nat) (text : List Char) : Option (Nat × List Char) :=
  let digits := text.take length
  if digits.length = length && digits.all Char.isDigit then
    some (digitsValue digits, text.drop length)
  else
    none

/-- A number in decimal, with zeros before it up to a length. -/
def padded (length number : Nat) : List Char :=
  let digits := decimalDigits number
  List.replicate (length - digits.length) '0' ++ digits

/-- The number of days of a month. -/
def daysInMonth (year month : Nat) : Nat :=
  if month = 2 then
    if year % 4 = 0 ∧ (year % 100 ≠ 0 ∨ year % 400 = 0) then 29 else 28
  else if month = 4 ∨ month = 6 ∨ month = 9 ∨ month = 11 then
    30
  else
    31

/-- The text behind a character at the beginning of a text. -/
def afterCharacter? (expected : Char) : List Char → Option (List Char)
  | character :: rest => if character = expected then some rest else none
  | [] => none

/-- The date at the beginning of a text in its normal form, and the text behind it. -/
def readDate? (text : List Char) : Option (List Char × List Char) := do
  let (year, rest) ← readFixed? 4 text
  let (month, rest) ← readFixed? 2 (← afterCharacter? '-' rest)
  let (day, rest) ← readFixed? 2 (← afterCharacter? '-' rest)
  if 1 ≤ month ∧ month ≤ 12 ∧ 1 ≤ day ∧ day ≤ daysInMonth year month then
    return (padded 4 year ++ ['-'] ++ padded 2 month ++ ['-'] ++ padded 2 day, rest)
  else
    none

/-- The fraction of a second at the beginning of a text, in its normal form of at most nine digits
without zeros at the end, and the text behind it. -/
def readSecondFraction (text : List Char) : List Char × List Char :=
  match text with
  | '.' :: rest =>
    let digits := rest.takeWhile Char.isDigit
    let kept := ((digits.take 9).reverse.dropWhile (· == '0')).reverse
    if digits.isEmpty then
      ([], text)
    else
      (if kept.isEmpty then [] else '.' :: kept, rest.dropWhile Char.isDigit)
  | _ => ([], text)

/-- The time at the beginning of a text in its normal form, and the text behind it. -/
def readTime? (text : List Char) : Option (List Char × List Char) := do
  let (hour, rest) ← readFixed? 2 text
  let (minute, rest) ← readFixed? 2 (← afterCharacter? ':' rest)
  let (second, rest) ← readFixed? 2 (← afterCharacter? ':' rest)
  let (fraction, rest) := readSecondFraction rest
  if hour ≤ 23 ∧ minute ≤ 59 ∧ second ≤ 60 then
    return (padded 2 hour ++ [':'] ++ padded 2 minute ++ [':'] ++ padded 2 second ++ fraction, rest)
  else
    none

/-- The distance from universal time at the beginning of a text in its normal form, and the text
behind it. -/
def readOffset? : List Char → Option (List Char × List Char)
  | [] => none
  | letter :: rest =>
    if letter = 'Z' ∨ letter = 'z' then
      some (['Z'], rest)
    else if letter = '+' ∨ letter = '-' then do
      let (hour, rest) ← readFixed? 2 rest
      let (minute, rest) ← readFixed? 2 (← afterCharacter? ':' rest)
      if hour ≤ 23 ∧ minute ≤ 59 then
        let sign := if hour = 0 ∧ minute = 0 then '+' else letter
        return (sign :: padded 2 hour ++ [':'] ++ padded 2 minute, rest)
      else
        none
    else
      none

/-- The time that follows a date, with its distance from universal time. -/
def readTimeAfterDate? : List Char → Option (List Char × List Char)
  | letter :: rest =>
    if letter = 'T' ∨ letter = 't' ∨ letter = ' ' then do
      let (time, rest) ← readTime? rest
      match readOffset? rest with
      | some (offset, rest) => return ('T' :: time ++ offset, rest)
      | none => return ('T' :: time, rest)
    else
      none
  | [] => none

/-- The reserved key of a point in time. -/
def dateTimeKey : String :=
  "$__toml_private_datetime"

/-- The date, the time or both at the beginning of a text, and the text behind it. -/
def readDateTime? (text : List Char) : Option (Document × List Char) :=
  let found := match readDate? text with
    | some (date, rest) =>
      match readTimeAfterDate? rest with
      | some (time, rest) => some (date ++ time, rest)
      | none => some (date, rest)
    | none => readTime? text
  found.map fun (content, rest) => (.table [(dateTimeKey, .text (String.ofList content))], rest)

/-- The value at the beginning of a text, other than an array or a table, and the text behind
it. -/
def readScalar? (text : List Char) : Option (Document × List Char) :=
  match text with
  | 't' :: 'r' :: 'u' :: 'e' :: rest => some (.boolean true, rest)
  | 'f' :: 'a' :: 'l' :: 's' :: 'e' :: rest => some (.boolean false, rest)
  | '\x22' :: _ | '\x27' :: _ =>
    (readString? text).map fun (content, rest) => (.text content, rest)
  | _ => readDateTime? text <|> readDigitFloat? text <|> readWordFloat? text <|> readInteger? text

end Switchboard.Toml
