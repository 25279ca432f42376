import Mathlib.Data.List.Forall2
import Switchboard.Proofs.Text.Lowercase

/-!
# Lower case and ASCII

The lower case of ASCII leaves alone what is not an ASCII letter, while the full one has an image for
many more characters. The two agree on texts in ASCII. In the other direction, a full lower-case form
in ASCII can come from outside: the image of the Kelvin sign is the letter k. It is the only such
character, since the dotted capital I has a second character in its image, which is not in ASCII. So
a text in ASCII without the letter k is the full lower-case form of those texts only that it is the
ASCII lower-case form of.
-/

namespace Switchboard

/-- Two characters that are the same but for the case of an ASCII letter. -/
def SameButCase (left right : Char) : Prop :=
  left = right ∨ (left.isUpper = true ∧ right.toNat = left.toNat + 32) ∨
    (right.isUpper = true ∧ left.toNat = right.toNat + 32)

theorem isUpper_iff {character : Char} :
    character.isUpper = true ↔ 65 ≤ character.toNat ∧ character.toNat ≤ 90 := by
  change decide ('A'.val ≤ character.val ∧ character.val ≤ 'Z'.val) = true ↔ _
  simp [UInt32.le_iff_toNat_le]

theorem toNat_toLower (character : Char) :
    character.toLower.toNat =
      if 65 ≤ character.toNat ∧ character.toNat ≤ 90 then character.toNat + 32
      else character.toNat := by
  unfold Char.toLower
  split
  · rename_i upper
    have bounds : 65 ≤ character.toNat ∧ character.toNat ≤ 90 := by
      simpa [UInt32.le_iff_toNat_le] using upper
    have distance : ('a'.val - 'A'.val).toNat = 32 := rfl
    have moved : (character.val + ('a'.val - 'A'.val)).toNat = character.toNat + 32 := by
      rw [UInt32.toNat_add, distance, Char.toNat_val, Nat.mod_eq_of_lt (by omega)]
    rw [if_pos bounds]
    exact moved
  · rename_i other
    rw [if_neg (by simpa [UInt32.le_iff_toNat_le] using other)]

theorem toLower_toLower (character : Char) : character.toLower.toLower = character.toLower := by
  rw [← Char.toNat_inj, toNat_toLower character.toLower, toNat_toLower character]
  by_cases upper : 65 ≤ character.toNat ∧ character.toNat ≤ 90
  · rw [if_pos upper, if_neg (by omega)]
  · rw [if_neg upper, if_neg upper]

theorem isDigit_toLower (character : Char) : character.toLower.isDigit = character.isDigit := by
  have zero : '0'.toNat = 48 := rfl
  have nine : '9'.toNat = 57 := rfl
  rw [Bool.eq_iff_iff, Char.isDigit_iff_toNat, Char.isDigit_iff_toNat, toNat_toLower]
  split <;> omega

/-- Lower case makes no difference between characters that are the same but for case, and between no
others. -/
theorem toLower_eq_toLower_iff {left right : Char} :
    left.toLower = right.toLower ↔ SameButCase left right := by
  rw [← Char.toNat_inj, toNat_toLower, toNat_toLower, SameButCase, isUpper_iff, isUpper_iff,
    ← Char.toNat_inj]
  split <;> split <;> omega

theorem lowercaseASCII_eq_iff {left right : String} :
    lowercaseASCII left = lowercaseASCII right ↔
      List.Forall₂ SameButCase left.toList right.toList := by
  rw [lowercaseASCII, lowercaseASCII, String.ofList_inj, ← List.forall₂_eq_eq_eq,
    List.forall₂_map_left_iff, List.forall₂_map_right_iff]
  simp only [toLower_eq_toLower_iff]

/-- Whether a character is in ASCII. -/
def IsASCII (character : Char) : Prop :=
  character.toNat < 0x80

instance (character : Char) : Decidable (IsASCII character) :=
  inferInstanceAs (Decidable (character.toNat < 0x80))

theorem isASCII_of_toLower {character : Char} (ascii : IsASCII character.toLower) :
    IsASCII character := by
  unfold IsASCII at *
  rw [toNat_toLower] at ascii
  split at ascii <;> omega

/-- The first run is that of the ASCII letters. Every other run begins outside ASCII and leads out of
it, unless it is that of the Kelvin sign. -/
theorem runs_outside_ascii : ∀ run ∈ lowercaseRuns.tail,
    0x80 ≤ run.first ∧ (0x80 ≤ run.image ∨ run.first = run.last ∧ run.image = 'k'.toNat) := by
  decide +kernel

theorem lowercaseRuns_eq : lowercaseRuns = ⟨0x41, 0x5A, 1, 0x61⟩ :: lowercaseRuns.tail :=
  rfl

theorem imageOf?_letters (point : Nat) :
    CaseRun.imageOf? ⟨0x41, 0x5A, 1, 0x61⟩ point =
      if 65 ≤ point ∧ point ≤ 90 then some (point + 32) else none := by
  unfold CaseRun.imageOf?
  dsimp only
  by_cases upper : 65 ≤ point ∧ point ≤ 90
  · rw [if_pos ⟨upper.1, upper.2, Nat.mod_one _⟩, if_pos upper]
    congr 1
    omega
  · rw [if_neg (by omega), if_neg upper]

theorem lowercaseSimple_of_ascii {character : Char} (ascii : IsASCII character) :
    lowercaseSimple character = character.toLower := by
  unfold IsASCII at ascii
  have noOther : lowercaseRuns.tail.findSome? (·.imageOf? character.toNat) = none := by
    rw [List.findSome?_eq_none_iff]
    intro run runMem
    have outside := (runs_outside_ascii run runMem).1
    rw [CaseRun.imageOf?, if_neg (by omega)]
  rw [← Char.toNat_inj, toNat_toLower, lowercaseSimple, lowercaseRuns_eq, List.findSome?_cons,
    imageOf?_letters, noOther]
  by_cases upper : 65 ≤ character.toNat ∧ character.toNat ≤ 90
  · rw [if_pos upper, if_pos upper]
    dsimp only
    exact toNat_ofNat_of_isValidChar (Or.inl (by omega))
  · rw [if_neg upper, if_neg upper]

/-- A character outside ASCII stays outside, unless it is the Kelvin sign. -/
theorem lowercaseSimple_of_not_ascii {character : Char} (outside : ¬IsASCII character) :
    ¬IsASCII (lowercaseSimple character) ∨ lowercaseSimple character = 'k' := by
  rcases lowercaseSimple_cases character with same | ⟨run, runMem, first, last, image, final⟩
  · rw [same]
    exact Or.inl outside
  · unfold IsASCII at *
    rw [lowercaseRuns_eq] at runMem
    rcases List.mem_cons.mp runMem with rfl | runMem
    · dsimp only at last
      omega
    · rcases (runs_outside_ascii run runMem).2 with beyond | ⟨single, kelvin⟩
      · left
        omega
      · right
        rw [← Char.toNat_inj]
        omega

/-- A character whose images are in ASCII, none of them being the letter k, is in ASCII itself. -/
theorem isASCII_of_lowercaseBetween {before after : List Char} {character : Char}
    (own : ∀ letter ∈ lowercaseBetween before character after, IsASCII letter ∧ letter ≠ 'k') :
    IsASCII character := by
  rw [lowercaseBetween] at own
  split at own
  · split at own
    · exact absurd (own _ List.mem_cons_self).1 (by decide)
    · exact absurd (own _ List.mem_cons_self).1 (by decide)
  · split at own
    · exact absurd (own _ (List.mem_cons_of_mem _ List.mem_cons_self)).1 (by decide)
    · by_contra outside
      rcases own _ List.mem_cons_self with ⟨ascii, notKelvin⟩
      rcases lowercaseSimple_of_not_ascii outside with beyond | kelvin
      · exact beyond ascii
      · exact notKelvin kelvin

theorem isASCII_of_lowercaseAfter {before text : List Char}
    (own : ∀ letter ∈ lowercaseAfter before text, IsASCII letter ∧ letter ≠ 'k') :
    ∀ character ∈ text, IsASCII character := by
  induction text generalizing before with
  | nil => simp
  | cons character rest ih =>
    rw [lowercaseAfter, List.forall_mem_append] at own
    rw [List.forall_mem_cons]
    exact ⟨isASCII_of_lowercaseBetween own.1, ih own.2⟩

theorem lowercaseAfter_of_ascii {before text : List Char}
    (ascii : ∀ character ∈ text, IsASCII character) :
    lowercaseAfter before text = text.map Char.toLower := by
  induction text generalizing before with
  | nil => rfl
  | cons character rest ih =>
    rw [List.forall_mem_cons] at ascii
    have notSigma : character ≠ '\u03A3' := by
      rintro rfl
      exact absurd ascii.1 (by decide)
    have notDotted : character ≠ '\u0130' := by
      rintro rfl
      exact absurd ascii.1 (by decide)
    rw [lowercaseAfter, lowercaseBetween, if_neg notSigma, if_neg notDotted,
      lowercaseSimple_of_ascii ascii.1, ih ascii.2]
    rfl

/-- A text in ASCII without the letter k is the lower-case form of the same texts, whether all
characters are looked at or those in ASCII only. -/
theorem lowercase_eq_iff_lowercaseASCII_eq {text form : String}
    (own : ∀ letter ∈ form.toList, IsASCII letter ∧ letter ≠ 'k') :
    lowercase text = form ↔ lowercaseASCII text = form := by
  have agree (ascii : ∀ character ∈ text.toList, IsASCII character) :
      lowercase text = lowercaseASCII text := by
    rw [lowercase, lowercaseASCII, lowercaseAfter_of_ascii ascii]
  constructor
  · rintro rfl
    have images : ∀ letter ∈ lowercaseAfter [] text.toList, IsASCII letter ∧ letter ≠ 'k' := by
      simpa [lowercase] using own
    exact (agree (isASCII_of_lowercaseAfter images)).symm
  · rintro rfl
    refine agree ?_
    intro character characterMem
    apply isASCII_of_toLower
    refine (own _ ?_).1
    rw [lowercaseASCII, String.toList_ofList]
    exact List.mem_map_of_mem characterMem

end Switchboard
