import Switchboard.Proofs.Token.Segments

/-!
# Agreement of both ways of splitting

A text can be split at once, or its first piece can be split off and the rest be split afterwards.
Both give the same tokens, with or without a bound: a first piece that is not blank is the first
token, and it uses up one of the pieces that the bound allows, be it blank or not. Nothing is asked
of the text and of the delimiter, which may be empty, and quoted spans may be left open.
-/

namespace Switchboard

/-- The first piece of a text as a list of tokens, which is empty if the piece is blank. -/
def firstToken (text delimiter : List Char) : List (List Char) :=
  if (splitFirst text delimiter).1 = [] then [] else [(splitFirst text delimiter).1]

/-- What remains behind the first piece is an end of the text. -/
theorem scanFirst_suffix (delimiter : List Char) (quoted : Bool) (text : List Char) :
    (scanFirst delimiter quoted text).2 <:+ text := by
  induction text generalizing quoted with
  | nil => simp [scanFirst]
  | cons character rest ih =>
    rw [scanFirst]
    split
    · rename_i remaining found
      have cut := append_of_afterDelimiter? (afterDelimiter?_of_cutHere? found).2
      exact ⟨delimiter, cut.2.symm⟩
    · split
      · exact (ih _).trans (List.suffix_cons _ _)
      · exact (ih _).trans (List.suffix_cons _ _)

/-- The segments of a text are those of the rest behind at most one more, which is the first
token or blank. A text without that one has no segments at all. -/
theorem exists_front_segments (text delimiter : List Char) :
    ∃ front, tokensOfPieces front = firstToken text delimiter ∧
      segments delimiter text = front ++ segments delimiter (splitFirst text delimiter).2 ∧
      ∀ count, (segments delimiter text).take (count + 1) =
        front ++ (segments delimiter (splitFirst text delimiter).2).take count := by
  rcases segments_scanFirst delimiter text with cut | ⟨nothing, firstEq⟩
  · refine ⟨[(scanFirst delimiter false text).1], ?_, cut, ?_⟩
    · by_cases blank : trim (scanFirst delimiter false text).1 = [] <;>
        simp [tokensOfPieces, firstToken, splitFirst, blank]
    · intro count
      rw [cut, List.take_succ_cons]
      rfl
  · refine ⟨[], ?_, ?_, ?_⟩
    · simp [tokensOfPieces, firstToken, splitFirst, firstEq, trim, trimStart, trimEnd]
    · simp [nothing, splitFirst, firstEq]
    · simp [nothing, splitFirst, firstEq]

/-- No bound keeps the first token away. -/
theorem firstToken_prefix (text delimiter : List Char) (bound : Option Nat) :
    firstToken text delimiter <+: splitTokens text delimiter bound := by
  rcases exists_front_segments text delimiter with ⟨front, frontEq, whole, taken⟩
  have begins : front <+: boundedBy bound (segments delimiter text) := by
    cases bound with
    | none => exact ⟨_, whole.symm⟩
    | some limit =>
      obtain ⟨more, room⟩ : ∃ more, max limit 1 = more + 1 := ⟨max limit 1 - 1, by omega⟩
      rw [boundedBy, room]
      exact ⟨_, (taken more).symm⟩
  rw [splitTokens_eq_tokensOfPieces, ← frontEq]
  exact tokensOfPieces_prefix begins

/-- Splitting a text gives its first token and then the tokens of the rest. A bound of two or more
allows one piece less for the rest, and a bound below that stops behind the first piece. The rest
is an end of the text and shorter than it. -/
theorem splitTokens_eq_firstToken_append (text delimiter : List Char) :
    splitTokens text delimiter none =
        firstToken text delimiter ++ splitTokens (splitFirst text delimiter).2 delimiter none ∧
    (∀ limit, 2 ≤ limit → splitTokens text delimiter (some limit) =
        firstToken text delimiter ++
          splitTokens (splitFirst text delimiter).2 delimiter (some (limit - 1))) ∧
    (∀ limit, limit ≤ 1 → splitTokens text delimiter (some limit) = firstToken text delimiter) ∧
    (splitFirst text delimiter).2 <:+ text ∧
    (text ≠ [] → (splitFirst text delimiter).2.length < text.length) := by
  rcases exists_front_segments text delimiter with ⟨front, frontEq, whole, taken⟩
  refine ⟨?_, ?_, ?_, scanFirst_suffix delimiter false text, length_splitFirst_lt delimiter⟩
  · simp only [splitTokens_eq_tokensOfPieces, boundedBy]
    rw [whole, tokensOfPieces_append, frontEq]
  · intro limit several
    have piecesEq : max limit 1 = limit - 1 + 1 := by omega
    have restEq : max (limit - 1) 1 = limit - 1 := by omega
    simp only [splitTokens_eq_tokensOfPieces, boundedBy]
    rw [piecesEq, restEq, taken, tokensOfPieces_append, frontEq]
  · intro limit single
    have piecesEq : max limit 1 = 0 + 1 := by omega
    simp only [splitTokens_eq_tokensOfPieces, boundedBy]
    rw [piecesEq, taken, List.take_zero, List.append_nil, frontEq]

/-- A quoted first piece, a blank one behind it, and a quoted span that is left open. -/
theorem splitTokens_eq_firstToken_append_quoted :
    splitFirst "'a b'  \x22c d".toList [' '] = ("a b".toList, " \x22c d".toList) ∧
    splitTokens "'a b'  \x22c d".toList [' '] none =
      ["a b".toList] ++ splitTokens " \x22c d".toList [' '] none ∧
    2 ≤ 3 ∧ splitTokens "'a b'  \x22c d".toList [' '] (some 3) =
      ["a b".toList] ++ splitTokens " \x22c d".toList [' '] (some 2) ∧
    0 ≤ 1 ∧ splitTokens "'a b'  \x22c d".toList [' '] (some 0) = ["a b".toList] ∧
    "'a b'  \x22c d".toList ≠ [] ∧
    " \x22c d".toList.length < "'a b'  \x22c d".toList.length := by
  have firstEq : splitFirst "'a b'  \x22c d".toList [' '] =
      ("a b".toList, " \x22c d".toList) := by
    decide +kernel
  have tokenEq : firstToken "'a b'  \x22c d".toList [' '] = ["a b".toList] := by
    simp only [firstToken, firstEq]
    rfl
  have filled : "'a b'  \x22c d".toList ≠ [] := by decide
  rcases splitTokens_eq_firstToken_append "'a b'  \x22c d".toList [' '] with
    ⟨unbounded, bounded, single, _, shorter⟩
  rw [firstEq, tokenEq] at unbounded
  have three := bounded 3 (by decide)
  rw [firstEq, tokenEq] at three
  have zero := single 0 (by decide)
  rw [tokenEq] at zero
  have less := shorter filled
  rw [firstEq] at less
  exact ⟨firstEq, unbounded, by decide, three, by decide, zero, filled, less⟩

end Switchboard
