import Switchboard.Config.Validation
import Switchboard.Logging.Setup
import Switchboard.Proofs.Text.ASCII

/-!
# Levels of a sound configuration

A configuration is checked with the full lower case, and its level is read with that of ASCII only.
The two never disagree on the name of a level: no such name has the letter k, so no text outside
ASCII has it as its lower-case form. The level of a sound configuration is therefore read, and the
usual one does not take the place of another one.
-/

namespace Switchboard

/-- A way of reading levels that takes the name of each level in any ASCII case for this level. What
else it reads is left open, numbers for instance. -/
def ReadsNames (read : String → Option LogLevel) : Prop :=
  ∀ (text : String) (level : LogLevel), lowercaseASCII text = level.name → read text = some level

namespace LogLevel

variable {text : String} {level : LogLevel}

theorem letter_of_name {letter : Char} (letterMem : letter ∈ level.name.toList) :
    letter ≠ '+' ∧ letter.isDigit = false ∧ IsASCII letter ∧ letter ≠ 'k' := by
  have known : level.name.toList.all (fun letter =>
      letter ≠ '+' ∧ letter.isDigit = false ∧ IsASCII letter ∧ letter ≠ 'k') = true := by
    cases level <;> decide
  exact of_decide_eq_true (List.all_eq_true.mp known letter letterMem)

/-- The full lower case and that of ASCII give the name of a level for the same texts. -/
theorem lowercase_eq_name_iff : lowercase text = level.name ↔ lowercaseASCII text = level.name :=
  lowercase_eq_iff_lowercaseASCII_eq fun _ letterMem => (letter_of_name letterMem).2.2

theorem ofName?_eq_some_iff : ofName? text = some level ↔ lowercaseASCII text = level.name := by
  rw [ofName?]
  constructor
  · intro found
    have named := List.find?_some found
    exact (beq_iff_eq.mp named).symm
  · intro same
    rw [same]
    cases level <;> decide

theorem readNatural?_of_first {character : Char} (unsigned : character ≠ '+')
    (other : character.isDigit = false) (rest : List Char) :
    readNatural? (character :: rest) = none := by
  unfold readNatural?
  split
  · rename_i tail same
    exact absurd (List.cons.inj same).1 unsigned
  · simp [other]

/-- A text that names a level does not write a number. -/
theorem readNatural?_of_name (same : lowercaseASCII text = level.name) :
    readNatural? text.toList = none := by
  have letters : text.toList.map Char.toLower = level.name.toList := by
    rw [← same, lowercaseASCII, String.toList_ofList]
  cases textEq : text.toList with
  | nil =>
    rw [textEq] at letters
    cases level <;> exact absurd letters (by decide)
  | cons character rest =>
    have first : character.toLower ∈ level.name.toList := by
      rw [← letters, textEq]
      exact List.mem_cons_self
    apply readNatural?_of_first
    · rintro rfl
      exact (letter_of_name first).1 rfl
    · rw [← isDigit_toLower]
      exact (letter_of_name first).2.1

theorem readsNames_ofText? : ReadsNames ofText? := by
  intro text level same
  rw [ofText?, readNatural?_of_name same, ofName?_eq_some_iff.mpr same]
  rfl

end LogLevel

theorem isLevelName_iff {text : String} :
    isLevelName text = true ↔ ∃ level : LogLevel, lowercaseASCII text = level.name := by
  rw [isLevelName, List.contains_iff_mem, levelNames, List.mem_map]
  constructor
  · rintro ⟨level, _, same⟩
    exact ⟨level, LogLevel.lowercase_eq_name_iff.mp same.symm⟩
  · rintro ⟨level, same⟩
    refine ⟨level, ?_, (LogLevel.lowercase_eq_name_iff.mpr same).symm⟩
    cases level <;> decide

namespace LoggingSettings

theorem isLevelName_of_sound {settings : LoggingSettings} (sound : settings.fault? = none) :
    isLevelName settings.level = true ∧
      ∀ entry ∈ settings.filters.entries, isLevelName entry.2 = true := by
  unfold fault? at sound
  split at sound
  · cases sound
  · rename_i known
    split at sound
    · cases sound
    · rename_i unfound
      exact ⟨by simpa using known, by simpa using unfound⟩

end LoggingSettings

namespace Configuration

/-- The level of a sound configuration is read, and it is the one whose name is the text in lower
case, so the usual level does not step in. Every way of reading levels that knows their names reads
this one. The directive of a module ends in the name of the level that the text for this module
is in lower case. -/
theorem levels_of_sound {configuration : Configuration} (sound : configuration.fault? = none) :
    LogLevel.ofText? configuration.logging.level = some configuration.logging.baseLevel ∧
    configuration.logging.baseLevel.name = lowercase configuration.logging.level ∧
    (∀ read, ReadsNames read →
      read configuration.logging.level = some configuration.logging.baseLevel) ∧
    List.Forall₂
      (fun entry directive => ∃ level : LogLevel, level.name = lowercase entry.2 ∧
        directive = entry.1 ++ "=" ++ level.name)
      configuration.logging.filters.entries configuration.logging.moduleDirectives := by
  have checked := (fault?_eq_none_iff.mp sound).2.1
  rcases LoggingSettings.isLevelName_of_sound checked with ⟨known, modulesKnown⟩
  rcases isLevelName_iff.mp known with ⟨level, same⟩
  have levelEq : configuration.logging.baseLevel = level := by
    rw [LoggingSettings.baseLevel, LogLevel.readsNames_ofText? _ _ same]
    rfl
  rw [levelEq]
  refine ⟨LogLevel.readsNames_ofText? _ _ same, ?_, ?_, ?_⟩
  · exact (LogLevel.lowercase_eq_name_iff.mpr same).symm
  · intro read reads
    exact reads _ _ same
  · rw [LoggingSettings.moduleDirectives, List.forall₂_map_right_iff, List.forall₂_same]
    intro entry entryMem
    rcases isLevelName_iff.mp (modulesKnown entry entryMem) with ⟨level, same⟩
    have full := LogLevel.lowercase_eq_name_iff.mpr same
    exact ⟨level, full.symm, by rw [← full]⟩

/-- A configuration whose levels are not in lower case. -/
def mixedCase : Configuration where
  logging := { level := "wARN", filters := .ofList [("jelly_core", "Trace")] }

theorem levels_of_sound_mixedCase :
    mixedCase.fault? = none ∧
    LogLevel.ofText? "wARN" = some mixedCase.logging.baseLevel ∧
    mixedCase.logging.baseLevel.name = "warn" ∧
    mixedCase.logging.moduleDirectives = ["jelly_core=trace"] := by
  have sound : mixedCase.fault? = none := by decide +kernel
  have warnEq : lowercase "wARN" = "warn" := by decide +kernel
  have traceEq : lowercase "Trace" = "trace" := by decide +kernel
  rcases levels_of_sound sound with ⟨read, named, _, directives⟩
  refine ⟨sound, read, named.trans warnEq, ?_⟩
  have entriesEq : mixedCase.logging.filters.entries = [("jelly_core", "Trace")] := rfl
  rw [entriesEq, List.forall₂_cons_left_iff] at directives
  rcases directives with ⟨_, _, ⟨level, levelEq, rfl⟩, nothing, directivesEq⟩
  rw [directivesEq, List.forall₂_nil_left_iff.mp nothing, levelEq, traceEq]
  rfl

end Configuration

end Switchboard
