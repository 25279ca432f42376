import Switchboard.Argument.Coercion
import Switchboard.Proofs.Dispatch.Typing
import Switchboard.Proofs.Numeral.DecimalForm
import Switchboard.Proofs.Text.ASCII

/-!
# Exact and canonical coercion

The standard coercion reads the integer that a text writes, or the identifier that it is in lower
case, and nothing else: it neither wraps a large number nor takes a character that only looks like a
digit. What it reads has a canonical text, which is read as the same value again.
-/

namespace Switchboard

/-- The hexadecimal digits, letters in both cases. -/
def hexAlphabet : List Char :=
  "0123456789abcdefABCDEF".toList

theorem isHexDigit_iff {character : Char} :
    isHexDigit character = true ↔ character ∈ hexAlphabet := by
  constructor
  · intro isDigit
    have ascii : character.toNat < 128 := by
      simp [isHexDigit, Char.isDigit, Char.le_def, UInt32.le_iff_toNat_le] at isDigit
      omega
    have known : ∀ point < 128, isHexDigit (Char.ofNat point) = true →
        Char.ofNat point ∈ hexAlphabet := by
      decide
    simpa using known character.toNat ascii (by simpa using isDigit)
  · have known : hexAlphabet.all isHexDigit = true := by decide
    exact List.all_eq_true.mp known character

theorem utf8Size_of_mem_hexAlphabet {digit : Char} (digitMem : digit ∈ hexAlphabet) :
    digit.utf8Size = 1 := by
  have known : hexAlphabet.all (·.utf8Size == 1) = true := by decide
  exact beq_iff_eq.mp (List.all_eq_true.mp known digit digitMem)

theorem toLower_mem_hexAlphabet {digit : Char} (digitMem : digit ∈ hexAlphabet) :
    digit.toLower ∈ hexAlphabet := by
  have known : hexAlphabet.all (hexAlphabet.contains ·.toLower) = true := by decide
  exact List.contains_iff_mem.mp (List.all_eq_true.mp known digit digitMem)

/-- A text of hexadecimal digits has as many bytes as characters. -/
theorem utf8ByteSize_ofList {digits : List Char}
    (hexadecimal : ∀ digit ∈ digits, digit ∈ hexAlphabet) :
    (String.ofList digits).utf8ByteSize = digits.length := by
  induction digits with
  | nil => rfl
  | cons digit rest ih =>
    rw [List.forall_mem_cons] at hexadecimal
    rw [String.ofList_cons, String.utf8ByteSize_append, String.utf8ByteSize_singleton,
      utf8Size_of_mem_hexAlphabet hexadecimal.1, ih hexadecimal.2, List.length_cons,
      Nat.add_comm]

/-- An identifier is as long as it must be and has hexadecimal digits only. -/
theorem readIdentifier_eq_ok_iff {raw identifier : String} :
    readIdentifier raw = .ok identifier ↔
      raw.toList.length = identifierLength ∧ (∀ digit ∈ raw.toList, digit ∈ hexAlphabet) ∧
        identifier = lowercaseASCII raw := by
  have bytes (hexadecimal : ∀ digit ∈ raw.toList, digit ∈ hexAlphabet) :
      raw.utf8ByteSize = raw.toList.length := by
    simpa using utf8ByteSize_ofList hexadecimal
  unfold readIdentifier
  split
  · rename_i tooLong
    constructor
    · intro impossible
      cases impossible
    · rintro ⟨lengthEq, hexadecimal, _⟩
      exact absurd ((bytes hexadecimal).trans lengthEq) tooLong
  · rename_i sizeEq
    split
    · rename_i all
      have hexadecimal : ∀ digit ∈ raw.toList, digit ∈ hexAlphabet := by
        simpa [isHexDigit_iff] using all
      have lengthEq : raw.toList.length = identifierLength := by
        rw [← bytes hexadecimal]
        exact not_not.mp sizeEq
      constructor
      · intro read
        exact ⟨lengthEq, hexadecimal, (Except.ok.inj read).symm⟩
      · rintro ⟨_, _, rfl⟩
        rfl
    · rename_i other
      constructor
      · intro impossible
        cases impossible
      · rintro ⟨_, hexadecimal, _⟩
        exact absurd (by simpa [isHexDigit_iff] using hexadecimal) other

theorem readIdentifier_of_not_mem {raw : String} {character : Char}
    (sizeEq : raw.utf8ByteSize = identifierLength) (present : character ∈ raw.toList)
    (other : character ∉ hexAlphabet) : readIdentifier raw = .error .notHexadecimal := by
  have notAll : raw.toList.all isHexDigit ≠ true := by
    intro all
    exact other (isHexDigit_iff.mp (List.all_eq_true.mp all character present))
  rw [readIdentifier, if_neg (not_not.mpr sizeEq), if_neg notAll]

/-- An identifier is read as itself. -/
theorem readIdentifier_of_readIdentifier {raw identifier : String}
    (read : readIdentifier raw = .ok identifier) : readIdentifier identifier = .ok identifier := by
  rcases readIdentifier_eq_ok_iff.mp read with ⟨lengthEq, hexadecimal, rfl⟩
  apply readIdentifier_eq_ok_iff.mpr
  refine ⟨?_, ?_, ?_⟩
  · simpa [lowercaseASCII] using lengthEq
  · intro digit digitMem
    rw [lowercaseASCII, String.toList_ofList, List.mem_map] at digitMem
    rcases digitMem with ⟨original, originalMem, rfl⟩
    exact toLower_mem_hexAlphabet (hexadecimal original originalMem)
  · simp only [lowercaseASCII, String.toList_ofList, List.map_map, Function.comp_def,
      toLower_toLower]

namespace Coercion

variable {kind : ParameterKind} {raw other : String} {value otherValue : Value}

theorem standard_eq_ok_iff : standard kind raw = .ok value ↔ readValue kind raw = .ok value := by
  unfold standard
  cases readValue kind raw with
  | error fault =>
    constructor
    · intro impossible
      cases impossible
    · intro impossible
      cases impossible
  | ok found =>
    change Except.ok found = Except.ok value ↔ _
    rw [Except.ok.injEq, Except.ok.injEq]

theorem standard_integer_eq_ok_iff :
    standard .integer raw = .ok value ↔
      ∃ integer : Int64, value = .integer integer ∧ DecimalForm raw.toList integer.toInt := by
  simp only [standard_eq_ok_iff, readValue, ← readInteger_eq_ok_iff]
  cases readInteger raw.toList with
  | error fault => simp
  | ok integer => simp [eq_comm]

theorem standard_identifier_eq_ok_iff :
    standard .identifier raw = .ok value ↔
      ∃ identifier, readIdentifier raw = .ok identifier ∧ Value.identifier identifier = value := by
  simp only [standard_eq_ok_iff, readValue, map_eq_ok_iff]

theorem standard_integer_display (integer : Int64) :
    standard .integer (Value.integer integer).display = .ok (.integer integer) :=
  standard_integer_eq_ok_iff.mpr ⟨integer, rfl, decimalForm_integerText integer.toInt⟩

/-- Except for floats, the text of a value that was read is read as the same value. -/
theorem standard_display (notFloat : kind ≠ .float) (read : standard kind raw = .ok value) :
    standard kind value.display = .ok value := by
  cases kind with
  | text =>
    cases read
    rfl
  | integer =>
    rcases standard_integer_eq_ok_iff.mp read with ⟨integer, rfl, _⟩
    exact standard_integer_display integer
  | float => exact absurd rfl notFloat
  | identifier =>
    rcases standard_identifier_eq_ok_iff.mp read with ⟨identifier, identifierEq, rfl⟩
    exact standard_identifier_eq_ok_iff.mpr
      ⟨identifier, readIdentifier_of_readIdentifier identifierEq, rfl⟩

theorem standard_identifier_eq_iff (read : standard .identifier raw = .ok value)
    (otherRead : standard .identifier other = .ok otherValue) :
    value = otherValue ↔ List.Forall₂ SameButCase raw.toList other.toList := by
  rcases standard_identifier_eq_ok_iff.mp read with ⟨identifier, identifierEq, rfl⟩
  rcases standard_identifier_eq_ok_iff.mp otherRead with ⟨otherIdentifier, otherEq, rfl⟩
  rcases readIdentifier_eq_ok_iff.mp identifierEq with ⟨_, _, rfl⟩
  rcases readIdentifier_eq_ok_iff.mp otherEq with ⟨_, _, rfl⟩
  rw [Value.identifier.injEq, lowercaseASCII_eq_iff]

/-- A text is read as an integer exactly if it writes one of 64 bits, and as an identifier exactly
if it has twenty-four hexadecimal digits, whose case does not matter. A value that was read is of
the kind that was asked for, and except for floats it is read from its own text as well. -/
theorem standard_exact (raw : String) :
    ((∃ value, standard .integer raw = .ok value) ↔
      ∃ number, DecimalForm raw.toList number ∧
        -0x8000000000000000 ≤ number ∧ number < 0x8000000000000000) ∧
    (∀ number value, DecimalForm raw.toList number → standard .integer raw = .ok value →
      ∃ integer : Int64, value = .integer integer ∧ integer.toInt = number) ∧
    (∀ value, standard .identifier raw = .ok value ↔
      raw.toList.length = 24 ∧
        (∀ character ∈ raw.toList, character ∈ "0123456789abcdefABCDEF".toList) ∧
        value = .identifier (lowercaseASCII raw)) ∧
    (raw.utf8ByteSize = 24 → ∀ character ∈ raw.toList,
      character ∉ "0123456789abcdefABCDEF".toList →
        standard .identifier raw = .error ⟨.identifier, raw, .notHexadecimal⟩) ∧
    (∀ other value otherValue, standard .identifier raw = .ok value →
      standard .identifier other = .ok otherValue →
        (value = otherValue ↔ List.Forall₂ SameButCase raw.toList other.toList)) ∧
    (∀ kind value, kind ≠ .float → standard kind raw = .ok value →
      value.kind = kind ∧ standard kind value.display = .ok value) ∧
    ∀ integer : Int64,
      standard .integer (Value.integer integer).display = .ok (.integer integer) := by
  refine ⟨?_, ?_, ?_, ?_, ?_, ?_, standard_integer_display⟩
  · simp only [standard_integer_eq_ok_iff]
    constructor
    · rintro ⟨_, integer, rfl, form⟩
      exact ⟨integer.toInt, form, integer.le_toInt, integer.toInt_lt⟩
    · rintro ⟨number, form, lower, upper⟩
      rw [← Int64.toInt_ofInt_of_le lower upper] at form
      exact ⟨_, Int64.ofInt number, rfl, form⟩
  · intro number value form read
    rcases standard_integer_eq_ok_iff.mp read with ⟨integer, rfl, own⟩
    exact ⟨integer, rfl, own.unique form⟩
  · intro value
    rw [standard_identifier_eq_ok_iff]
    simp only [readIdentifier_eq_ok_iff]
    constructor
    · rintro ⟨identifier, ⟨lengthEq, hexadecimal, rfl⟩, rfl⟩
      exact ⟨lengthEq, hexadecimal, rfl⟩
    · rintro ⟨lengthEq, hexadecimal, rfl⟩
      exact ⟨lowercaseASCII raw, ⟨lengthEq, hexadecimal, rfl⟩, rfl⟩
  · intro sizeEq character present foreign
    have refused := readIdentifier_of_not_mem sizeEq present foreign
    rw [standard, readValue, refused]
    rfl
  · intro other value otherValue read otherRead
    exact standard_identifier_eq_iff read otherRead
  · intro kind value notFloat read
    exact ⟨kind_of_standard read, standard_display notFloat read⟩

/-- The least integer of 64 bits with a leading zero, the number after the greatest one, and an
identifier in mixed case. -/
theorem standard_exact_extremes :
    (∃ value, standard .integer "-09223372036854775808" = .ok value ∧
      value.display = "-9223372036854775808") ∧
    (¬∃ value, standard .integer "+9223372036854775808" = .ok value) ∧
    standard .identifier "5E0B1A2C3D4E5F6071829304" =
      .ok (.identifier "5e0b1a2c3d4e5f6071829304") := by
  have least : DecimalForm "-09223372036854775808".toList (-0x8000000000000000) :=
    @DecimalForm.minus "09223372036854775808".toList (by decide)
      (List.all_eq_true.mp (by decide))
  have excess : DecimalForm "+9223372036854775808".toList 0x8000000000000000 :=
    @DecimalForm.plus "9223372036854775808".toList (by decide) (List.all_eq_true.mp (by decide))
  refine ⟨?_, ?_, ?_⟩
  · rcases standard_exact "-09223372036854775808" with ⟨accepted, exactValue, _⟩
    rcases accepted.mpr ⟨_, least, by decide, by decide⟩ with ⟨value, read⟩
    rcases exactValue _ value least read with ⟨integer, rfl, integerEq⟩
    refine ⟨_, read, ?_⟩
    rw [Value.display, integerEq]
    decide
  · rintro accepted
    rcases (standard_exact "+9223372036854775808").1.mp accepted with ⟨number, form, _, upper⟩
    rw [form.unique excess] at upper
    omega
  · rcases standard_exact "5E0B1A2C3D4E5F6071829304" with ⟨_, _, identifier, _⟩
    have hexadecimal : "5E0B1A2C3D4E5F6071829304".toList.all hexAlphabet.contains = true := by
      decide
    refine (identifier _).mpr ⟨by decide, ?_, congrArg Value.identifier (by decide)⟩
    intro digit digitMem
    exact List.contains_iff_mem.mp (List.all_eq_true.mp hexadecimal digit digitMem)

end Coercion

end Switchboard
