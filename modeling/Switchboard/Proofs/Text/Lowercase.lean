import Switchboard.Proofs.Text.Trimming
import Switchboard.Proofs.Token.Enclosure
import Switchboard.Text.Lowercase

/-!
# What lower case leaves alone

Some classes of characters are out of the way of the lower-case mapping: it neither changes a
character of the class nor gives one for a character outside. A text in lower case has such
characters where the text itself has them. Blank characters and quote characters are of this kind.
-/

namespace Switchboard

namespace CharacterClass

/-- Whether the lower-case mapping has nothing to do with a class of characters. The two characters
that the table does not cover are looked at with their images. -/
structure Caseless (characterClass : CharacterClass) : Prop where
  runs_apart : ∀ run ∈ lowercaseRuns, ∀ range ∈ characterClass.ranges,
    (run.last < range.1 ∨ range.2 < run.first) ∧
      (run.image + (run.last - run.first) < range.1 ∨ range.2 < run.image)
  others_apart : List.all ['\u03A3', '\u03C2', '\u03C3', '\u0130', 'i', '\u0307']
    (fun character => !characterClass.contains character) = true

end CharacterClass

/-- Images of runs are characters. -/
theorem isValidChar_image : ∀ run ∈ lowercaseRuns,
    run.image + (run.last - run.first) < 0xD800 ∨
      0xDFFF < run.image ∧ run.image + (run.last - run.first) < 0x110000 := by
  decide +kernel

theorem toNat_ofNat_of_isValidChar {point : Nat} (valid : point.isValidChar) :
    (Char.ofNat point).toNat = point := by
  rw [Char.ofNat, dif_pos valid]
  rfl

/-- A character is its own image or lies in a run, and its image lies among those of the run. -/
theorem lowercaseSimple_cases (character : Char) :
    lowercaseSimple character = character ∨
      ∃ run ∈ lowercaseRuns,
        run.first ≤ character.toNat ∧ character.toNat ≤ run.last ∧
          run.image ≤ (lowercaseSimple character).toNat ∧
          (lowercaseSimple character).toNat ≤ run.image + (run.last - run.first) := by
  rw [lowercaseSimple]
  cases found : lowercaseRuns.findSome? (·.imageOf? character.toNat) with
  | none => exact Or.inl rfl
  | some point =>
    right
    rcases List.exists_of_findSome?_eq_some found with ⟨run, runMem, imageEq⟩
    have valid := isValidChar_image run runMem
    rw [CaseRun.imageOf?] at imageEq
    split at imageEq
    · rename_i inside
      cases imageEq
      have pointValid : (run.image + (character.toNat - run.first)).isValidChar := by
        rw [Nat.isValidChar]
        omega
      have pointEq := toNat_ofNat_of_isValidChar pointValid
      refine ⟨run, runMem, inside.1, inside.2.1, ?_⟩
      dsimp only
      omega
    · cases imageEq

namespace CharacterClass

variable {characterClass : CharacterClass}

theorem contains_iff {character : Char} :
    characterClass.contains character = true ↔
      ∃ range ∈ characterClass.ranges, range.1 ≤ character.toNat ∧ character.toNat ≤ range.2 := by
  simp [contains]

theorem Caseless.contains_lowercaseSimple (caseless : characterClass.Caseless) (character : Char) :
    characterClass.contains (lowercaseSimple character) = characterClass.contains character := by
  rcases lowercaseSimple_cases character with same | ⟨run, runMem, first, last, image, final⟩
  · rw [same]
  · have apart := caseless.runs_apart run runMem
    rw [Bool.eq_iff_iff, contains_iff, contains_iff]
    constructor
    · rintro ⟨range, rangeMem, lower, upper⟩
      have := (apart range rangeMem).2
      omega
    · rintro ⟨range, rangeMem, lower, upper⟩
      have := (apart range rangeMem).1
      omega

/-- A character of the class stays, and no other character becomes one. -/
theorem Caseless.contains_of_mem_lowercaseBetween (caseless : characterClass.Caseless)
    {before after : List Char} {character image : Char}
    (imageMem : image ∈ lowercaseBetween before character after) :
    characterClass.contains image = characterClass.contains character := by
  have others := caseless.others_apart
  simp only [List.all_cons, Bool.and_eq_true, Bool.not_eq_true'] at others
  rw [lowercaseBetween] at imageMem
  split at imageMem
  · split at imageMem <;> simp_all
  · split at imageMem
    · rcases List.mem_pair.mp imageMem with rfl | rfl <;> simp_all
    · rw [List.mem_singleton.mp imageMem]
      exact caseless.contains_lowercaseSimple character

/-- A text in lower case has characters of the class exactly if the text has. -/
theorem Caseless.any_lowercaseAfter (caseless : characterClass.Caseless)
    (before text : List Char) :
    (lowercaseAfter before text).any characterClass.contains =
      text.any characterClass.contains := by
  induction text generalizing before with
  | nil => rfl
  | cons character rest ih =>
    rw [lowercaseAfter, List.any_append, ih, List.any_cons]
    rcases List.exists_cons_of_ne_nil (lowercaseBetween_ne_nil before character rest) with
      ⟨first, others, imagesEq⟩
    have images : ∀ image ∈ first :: others,
        characterClass.contains image = characterClass.contains character := by
      intro image imageMem
      exact caseless.contains_of_mem_lowercaseBetween (imagesEq ▸ imageMem)
    rw [imagesEq]
    congr 1
    rw [Bool.eq_iff_iff, List.any_eq_true]
    constructor
    · rintro ⟨image, imageMem, held⟩
      rwa [← images image imageMem]
    · intro held
      exact ⟨first, by simp, by rw [images first (by simp), held]⟩

/-- The first character of a text in lower case is of the class exactly if the first one of the text
is. -/
theorem Caseless.head?_lowercaseAfter (caseless : characterClass.Caseless)
    (before text : List Char) :
    (lowercaseAfter before text).head?.map characterClass.contains =
      text.head?.map characterClass.contains := by
  cases text with
  | nil => rfl
  | cons character rest =>
    rcases List.exists_cons_of_ne_nil (lowercaseBetween_ne_nil before character rest) with
      ⟨first, others, imagesEq⟩
    have same : characterClass.contains first = characterClass.contains character :=
      caseless.contains_of_mem_lowercaseBetween (by rw [imagesEq]; simp)
    simp [lowercaseAfter, imagesEq, same]

/-- The last character of a text in lower case is of the class exactly if the last one of the text
is. -/
theorem Caseless.getLast?_lowercaseAfter (caseless : characterClass.Caseless)
    (before text : List Char) :
    (lowercaseAfter before text).getLast?.map characterClass.contains =
      text.getLast?.map characterClass.contains := by
  induction text generalizing before with
  | nil => rfl
  | cons character rest ih =>
    have here : (lowercaseBetween before character rest).getLast?.map characterClass.contains =
        some (characterClass.contains character) := by
      rcases Option.ne_none_iff_exists'.mp
        (mt List.getLast?_eq_none_iff.mp (lowercaseBetween_ne_nil before character rest)) with
        ⟨final, finalEq⟩
      have same := caseless.contains_of_mem_lowercaseBetween (List.mem_of_getLast? finalEq)
      rw [finalEq, Option.map_some, same]
    rw [lowercaseAfter, List.getLast?_append, Option.map_or, ih, here, List.getLast?_cons]
    cases rest.getLast? <;> rfl

end CharacterClass

/-- The quote characters. -/
def quoteCharacters : CharacterClass :=
  ⟨[(0x22, 0x22), (0x27, 0x27)]⟩

theorem isQuote_eq_contains : isQuote = quoteCharacters.contains := by
  funext character
  rw [Bool.eq_iff_iff, CharacterClass.contains_iff, isQuote, Bool.or_eq_true, beq_iff_eq,
    beq_iff_eq]
  constructor
  · rintro (rfl | rfl)
    · exact ⟨(0x27, 0x27), by simp [quoteCharacters], by decide⟩
    · exact ⟨(0x22, 0x22), by simp [quoteCharacters], by decide⟩
  · rintro ⟨range, rangeMem, lower, upper⟩
    rcases List.mem_pair.mp rangeMem with rfl | rfl
    · exact Or.inr (Char.toNat_inj.mp (Nat.le_antisymm upper lower))
    · exact Or.inl (Char.toNat_inj.mp (Nat.le_antisymm upper lower))

theorem isBlank_eq_contains : isBlank = blankCharacters.contains :=
  rfl

theorem caseless_blankCharacters : blankCharacters.Caseless where
  runs_apart := by decide +kernel
  others_apart := by decide

theorem caseless_quoteCharacters : quoteCharacters.Caseless where
  runs_apart := by decide +kernel
  others_apart := by decide

theorem unquoted_iff {text : List Char} : Unquoted text ↔ text.any isQuote = false := by
  simp [Unquoted]

theorem trim_lowercaseAfter_iff (before text : List Char) :
    trim (lowercaseAfter before text) = lowercaseAfter before text ↔ trim text = text := by
  rw [trim_eq_self_iff, trim_eq_self_iff, isBlank_eq_contains,
    caseless_blankCharacters.head?_lowercaseAfter, caseless_blankCharacters.getLast?_lowercaseAfter]

theorem unquoted_lowercaseAfter_iff (before text : List Char) :
    Unquoted (lowercaseAfter before text) ↔ Unquoted text := by
  rw [unquoted_iff, unquoted_iff, isQuote_eq_contains, caseless_quoteCharacters.any_lowercaseAfter]

end Switchboard
