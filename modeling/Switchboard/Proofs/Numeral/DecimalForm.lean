import Switchboard.Numeral.Integer

/-!
# Decimal forms of integers

An integer has many decimal forms, since a plus sign and leading zeros change nothing. Reading
accepts each of them if its value has 64 bits. The magnitude is compared with the limit behind
every digit and not only at the end of the text, but further digits never make it smaller: if the
value of the whole text is within the limit, so is the value of every beginning.
-/

namespace Switchboard

/-- A text writes an integer by an optional sign and one or more decimal digits. -/
inductive DecimalForm : List Char → Int → Prop where
  | unsigned {digits : List Char} (filled : digits ≠ [])
      (decimal : ∀ digit ∈ digits, digit.isDigit = true) :
      DecimalForm digits (Nat.ofDigitChars 10 digits 0)
  | plus {digits : List Char} (filled : digits ≠ [])
      (decimal : ∀ digit ∈ digits, digit.isDigit = true) :
      DecimalForm ('+' :: digits) (Nat.ofDigitChars 10 digits 0)
  | minus {digits : List Char} (filled : digits ≠ [])
      (decimal : ∀ digit ∈ digits, digit.isDigit = true) :
      DecimalForm ('-' :: digits) (-(Nat.ofDigitChars 10 digits 0 : Int))

/-- A text writes at most one integer. -/
theorem DecimalForm.unique {text : List Char} {number other : Int} (form : DecimalForm text number)
    (otherForm : DecimalForm text other) : number = other := by
  have unsigned {sign : Char} {digits : List Char} (isSign : sign.isDigit = false)
      (decimal : ∀ digit ∈ sign :: digits, digit.isDigit = true) : number = other := by
    simp [isSign] at decimal
  cases form with
  | unsigned _ decimal =>
    cases otherForm with
    | unsigned _ _ => rfl
    | plus _ _ => exact unsigned rfl decimal
    | minus _ _ => exact unsigned rfl decimal
  | plus _ _ =>
    cases otherForm with
    | unsigned _ decimal => exact unsigned rfl decimal
    | plus _ _ => rfl
  | minus _ _ =>
    cases otherForm with
    | unsigned _ decimal => exact unsigned rfl decimal
    | minus _ _ => rfl

theorem le_ofDigitChars (digits : List Char) (magnitude : Nat) :
    magnitude ≤ Nat.ofDigitChars 10 digits magnitude := by
  induction digits generalizing magnitude with
  | nil => simp
  | cons digit rest ih =>
    rw [Nat.ofDigitChars_cons]
    have := ih (10 * magnitude + (digit.toNat - '0'.toNat))
    omega

variable {limit magnitude result : Nat} {excess : IntegerFault} {digits : List Char}

/-- Digits are read exactly if they are digits, and the value of all of them is within the limit. -/
theorem appendDigits_eq_ok_iff :
    appendDigits limit excess magnitude digits = .ok result ↔
      (∀ digit ∈ digits, digit.isDigit = true) ∧
        Nat.ofDigitChars 10 digits magnitude = result ∧ (digits ≠ [] → result ≤ limit) := by
  induction digits generalizing magnitude with
  | nil => simp [appendDigits]
  | cons digit rest ih =>
    rw [Nat.ofDigitChars_cons, List.forall_mem_cons]
    by_cases decimal : digit.isDigit = true
    · have grows := le_ofDigitChars rest (10 * magnitude + (digit.toNat - '0'.toNat))
      simp only [appendDigits, digitValue?, decimal, if_true, true_and]
      split
      · rename_i within
        rw [ih]
        constructor
        · rintro ⟨others, rfl, bounded⟩
          refine ⟨others, rfl, fun _ => ?_⟩
          by_cases last : rest = []
          · simpa [last] using within
          · exact bounded last
        · rintro ⟨others, rfl, bounded⟩
          exact ⟨others, rfl, fun _ => bounded (by simp)⟩
      · rename_i beyond
        constructor
        · intro impossible
          cases impossible
        · rintro ⟨_, rfl, bounded⟩
          have := bounded (by simp)
          omega
    · simp [appendDigits, digitValue?, decimal]

theorem appendDigits_zero_eq_ok_iff (filled : digits ≠ []) :
    appendDigits limit excess 0 digits = .ok result ↔
      (∀ digit ∈ digits, digit.isDigit = true) ∧
        Nat.ofDigitChars 10 digits 0 = result ∧ result ≤ limit := by
  rw [appendDigits_eq_ok_iff]
  simp [filled]

theorem map_eq_ok_iff {Error Value Result : Type} {first : Except Error Value}
    {change : Value → Result} {result : Result} :
    first.map change = .ok result ↔ ∃ value, first = .ok value ∧ change value = result := by
  cases first <;> simp [Except.map]

variable {integer : Int64}

/-- Digits without a minus sign are read if their value is not too large, and it is the result. -/
theorem map_ofNat_eq_ok_iff (filled : digits ≠ []) :
    (appendDigits greatestInteger .tooLarge 0 digits).map Int64.ofNat = .ok integer ↔
      (∀ digit ∈ digits, digit.isDigit = true) ∧
        integer.toInt = Nat.ofDigitChars 10 digits 0 := by
  have toIntEq {magnitude : Nat} (bounded : magnitude ≤ greatestInteger) :
      (Int64.ofNat magnitude).toInt = magnitude :=
    Int64.toInt_ofNat_of_lt (Nat.lt_succ_of_le bounded)
  simp only [map_eq_ok_iff, appendDigits_zero_eq_ok_iff filled]
  constructor
  · rintro ⟨_, ⟨decimal, rfl, bounded⟩, rfl⟩
    exact ⟨decimal, toIntEq bounded⟩
  · rintro ⟨decimal, valueEq⟩
    have bounded : Nat.ofDigitChars 10 digits 0 ≤ greatestInteger := by
      have := integer.toInt_lt
      unfold greatestInteger
      omega
    exact ⟨_, ⟨decimal, rfl, bounded⟩, Int64.toInt.inj (by rw [toIntEq bounded, valueEq])⟩

theorem readInteger_minus_eq_ok_iff (filled : digits ≠ []) :
    readInteger ('-' :: digits) = .ok integer ↔
      (∀ digit ∈ digits, digit.isDigit = true) ∧
        integer.toInt = -(Nat.ofDigitChars 10 digits 0 : Int) := by
  have readEq : readInteger ('-' :: digits) =
      (appendDigits leastMagnitude .tooSmall 0 digits).map fun magnitude : Nat =>
        Int64.ofInt (-(magnitude : Int)) := by
    cases digits with
    | nil => exact absurd rfl filled
    | cons digit rest =>
      cases read : appendDigits leastMagnitude .tooSmall 0 (digit :: rest) <;>
        simp only [readInteger, read] <;> rfl
  rw [readEq]
  simp only [map_eq_ok_iff, appendDigits_zero_eq_ok_iff filled]
  constructor
  · rintro ⟨_, ⟨decimal, rfl, bounded⟩, rfl⟩
    unfold leastMagnitude at bounded
    exact ⟨decimal, Int64.toInt_ofInt_of_le (by omega) (by omega)⟩
  · rintro ⟨decimal, valueEq⟩
    have bounded : Nat.ofDigitChars 10 digits 0 ≤ leastMagnitude := by
      have := integer.le_toInt
      unfold leastMagnitude
      omega
    exact ⟨_, ⟨decimal, rfl, bounded⟩, by rw [← valueEq, Int64.ofInt_toInt]⟩

theorem readInteger_plus_eq_ok_iff (filled : digits ≠ []) :
    readInteger ('+' :: digits) = .ok integer ↔
      (∀ digit ∈ digits, digit.isDigit = true) ∧
        integer.toInt = Nat.ofDigitChars 10 digits 0 := by
  rw [← map_ofNat_eq_ok_iff filled]
  cases digits with
  | nil => exact absurd rfl filled
  | cons digit rest => rfl

theorem readInteger_unsigned_eq_ok_iff {first : Char} {rest : List Char} (noMinus : first ≠ '-')
    (noPlus : first ≠ '+') :
    readInteger (first :: rest) = .ok integer ↔
      (∀ digit ∈ first :: rest, digit.isDigit = true) ∧
        integer.toInt = Nat.ofDigitChars 10 (first :: rest) 0 := by
  rw [← map_ofNat_eq_ok_iff (List.cons_ne_nil first rest)]
  unfold readInteger
  split <;> simp_all

theorem decimalForm_of_readInteger {text : List Char} (read : readInteger text = .ok integer) :
    DecimalForm text integer.toInt := by
  rcases text with _ | ⟨first, digits⟩
  · cases read
  · by_cases negative : first = '-'
    · subst first
      have filled : digits ≠ [] := by
        rintro rfl
        cases read
      rcases (readInteger_minus_eq_ok_iff filled).mp read with ⟨decimal, valueEq⟩
      rw [valueEq]
      exact .minus filled decimal
    · by_cases positive : first = '+'
      · subst first
        have filled : digits ≠ [] := by
          rintro rfl
          cases read
        rcases (readInteger_plus_eq_ok_iff filled).mp read with ⟨decimal, valueEq⟩
        rw [valueEq]
        exact .plus filled decimal
      · rcases (readInteger_unsigned_eq_ok_iff negative positive).mp read with ⟨decimal, valueEq⟩
        rw [valueEq]
        exact .unsigned (List.cons_ne_nil first digits) decimal

/-- An integer is read from its decimal forms and from nothing else. -/
theorem readInteger_eq_ok_iff {text : List Char} :
    readInteger text = .ok integer ↔ DecimalForm text integer.toInt := by
  constructor
  · exact decimalForm_of_readInteger
  · intro form
    generalize valueEq : integer.toInt = number at form
    cases form with
    | unsigned filled decimal =>
      cases text with
      | nil => exact absurd rfl filled
      | cons first rest =>
        have isDigit := decimal first List.mem_cons_self
        have noMinus : first ≠ '-' := by
          rintro rfl
          cases isDigit
        have noPlus : first ≠ '+' := by
          rintro rfl
          cases isDigit
        exact (readInteger_unsigned_eq_ok_iff noMinus noPlus).mpr ⟨decimal, valueEq⟩
    | plus filled decimal => exact (readInteger_plus_eq_ok_iff filled).mpr ⟨decimal, valueEq⟩
    | minus filled decimal => exact (readInteger_minus_eq_ok_iff filled).mpr ⟨decimal, valueEq⟩

theorem isDigit_of_mem_decimalDigits {number : Nat} :
    ∀ digit ∈ decimalDigits number, digit.isDigit = true :=
  fun _ digitMem => Nat.isDigit_of_mem_toDigits (by decide) (by decide) digitMem

/-- What is shown of an integer is a decimal form of it. -/
theorem decimalForm_integerText (number : Int) : DecimalForm (integerText number).toList number := by
  have filled : decimalDigits number.natAbs ≠ [] := Nat.toDigits_ne_nil
  have valueEq : Nat.ofDigitChars 10 (decimalDigits number.natAbs) 0 = number.natAbs :=
    Nat.ofDigitChars_ten_toDigits
  unfold integerText
  split
  · have form := DecimalForm.minus filled isDigit_of_mem_decimalDigits
    rw [valueEq] at form
    have numberEq : -(number.natAbs : Int) = number := by omega
    rw [numberEq] at form
    simpa using form
  · have form := DecimalForm.unsigned filled isDigit_of_mem_decimalDigits
    rw [valueEq] at form
    have numberEq : (number.natAbs : Int) = number := by omega
    rw [numberEq] at form
    simpa [naturalText] using form

end Switchboard
