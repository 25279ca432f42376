/-!
# Character classes

A class of characters is kept as the ranges of its code points. Membership is a search through
the ranges, so a class is plain data and every question about it can be decided.
-/

namespace Switchboard

/-- A set of characters, given by inclusive ranges of code points. -/
structure CharacterClass where
  ranges : List (Nat × Nat)

namespace CharacterClass

/-- Membership of a character in one of the ranges. -/
def contains (characterClass : CharacterClass) (character : Char) : Bool :=
  characterClass.ranges.any fun (first, last) =>
    first ≤ character.toNat && character.toNat ≤ last

end CharacterClass

end Switchboard
