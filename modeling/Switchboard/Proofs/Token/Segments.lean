import Switchboard.Token.Split

/-!
# Segments of a text

A text is cut once at its unquoted delimiters. What lies between two cuts is a segment, and quote
characters belong to no segment. Both ways of reading a text are ways of reading its segments:
splitting it up to a bound takes the first segments, and splitting off its first piece takes the
first one and leaves a text that has the others.
-/

namespace Switchboard

/-- The segments of a text that begins inside or outside a quoted span. There is always one. -/
def rawSegments (delimiter : List Char) (quoted : Bool) (text : List Char) : List (List Char) :=
  match text with
  | [] => [[]]
  | character :: rest =>
    match _found : cutHere? delimiter quoted (character :: rest) with
    | some remaining => [] :: rawSegments delimiter false remaining
    | none =>
      if isQuote character then
        rawSegments delimiter (!quoted) rest
      else
        (rawSegments delimiter quoted rest).modifyHead (character :: ·)
termination_by text.length
decreasing_by
  · exact length_lt_of_afterDelimiter? (afterDelimiter?_of_cutHere? ‹_›).2
  · simp
  · simp

/-- A list of segments without a final one that is empty. -/
def dropFinalEmpty : List (List Char) → List (List Char)
  | [] => []
  | [last] => if last.isEmpty then [] else [last]
  | first :: second :: rest => first :: dropFinalEmpty (second :: rest)

/-- The segments of a text. A final empty one does not count. -/
def segments (delimiter text : List Char) : List (List Char) :=
  dropFinalEmpty (rawSegments delimiter false text)

/-- A bound on a number of segments leaves room for one at least. -/
def boundedBy (bound : Option Nat) (pieces : List (List Char)) : List (List Char) :=
  match bound with
  | some limit => pieces.take (max limit 1)
  | none => pieces

section Scan

variable {delimiter : List Char} {quoted : Bool} {character : Char} {rest remaining : List Char}

@[simp]
theorem rawSegments_nil (delimiter : List Char) (quoted : Bool) :
    rawSegments delimiter quoted [] = [[]] := by
  rw [rawSegments]

theorem rawSegments_of_cut
    (found : cutHere? delimiter quoted (character :: rest) = some remaining) :
    rawSegments delimiter quoted (character :: rest) =
      [] :: rawSegments delimiter false remaining := by
  rw [rawSegments]
  split <;> simp_all

theorem rawSegments_of_quote (uncut : cutHere? delimiter quoted (character :: rest) = none)
    (quote : isQuote character = true) :
    rawSegments delimiter quoted (character :: rest) = rawSegments delimiter (!quoted) rest := by
  rw [rawSegments]
  split <;> simp_all

theorem rawSegments_of_plain (uncut : cutHere? delimiter quoted (character :: rest) = none)
    (plain : ¬isQuote character = true) :
    rawSegments delimiter quoted (character :: rest) =
      (rawSegments delimiter quoted rest).modifyHead (character :: ·) := by
  rw [rawSegments]
  split <;> simp_all

theorem scanPieces_of_cut (bound : Option Nat) (pending : List Char)
    (found : cutHere? delimiter quoted (character :: rest) = some remaining) :
    scanPieces delimiter bound quoted pending (character :: rest) =
      if bound.any (· ≤ 1) then
        [pending.reverse]
      else
        pending.reverse :: scanPieces delimiter (bound.map (· - 1)) false [] remaining := by
  rw [scanPieces]
  split <;> simp_all

theorem scanPieces_of_quote (bound : Option Nat) (pending : List Char)
    (uncut : cutHere? delimiter quoted (character :: rest) = none)
    (quote : isQuote character = true) :
    scanPieces delimiter bound quoted pending (character :: rest) =
      scanPieces delimiter bound (!quoted) pending rest := by
  rw [scanPieces]
  split <;> simp_all

theorem scanPieces_of_plain (bound : Option Nat) (pending : List Char)
    (uncut : cutHere? delimiter quoted (character :: rest) = none)
    (plain : ¬isQuote character = true) :
    scanPieces delimiter bound quoted pending (character :: rest) =
      scanPieces delimiter bound quoted (character :: pending) rest := by
  rw [scanPieces]
  split <;> simp_all

end Scan

theorem rawSegments_ne_nil (delimiter : List Char) (quoted : Bool) (text : List Char) :
    rawSegments delimiter quoted text ≠ [] := by
  induction quoted, text using rawSegments.induct delimiter with
  | case1 => simp
  | case2 quoted character rest remaining found ih => simp [rawSegments_of_cut found]
  | case3 quoted character rest uncut quote ih => simpa [rawSegments_of_quote uncut quote] using ih
  | case4 quoted character rest uncut plain ih => simpa [rawSegments_of_plain uncut plain] using ih

theorem dropFinalEmpty_cons {first : List Char} {others : List (List Char)} (more : others ≠ []) :
    dropFinalEmpty (first :: others) = first :: dropFinalEmpty others := by
  cases others with
  | nil => exact absurd rfl more
  | cons second rest => rfl

@[simp]
theorem segments_nil (delimiter : List Char) : segments delimiter [] = [] := by
  simp [segments, dropFinalEmpty]

/-- An unbounded scan gives the segments of a text, the first of them behind what is pending. -/
theorem scanPieces_none (delimiter : List Char) (quoted : Bool) (pending text : List Char) :
    scanPieces delimiter none quoted pending text =
      dropFinalEmpty ((rawSegments delimiter quoted text).modifyHead (pending.reverse ++ ·)) := by
  induction quoted, text using rawSegments.induct delimiter generalizing pending with
  | case1 => simp [scanPieces, dropFinalEmpty]
  | case2 quoted character rest remaining found ih =>
    have more : rawSegments delimiter false remaining ≠ [] := rawSegments_ne_nil _ _ _
    have unchanged : (rawSegments delimiter false remaining).modifyHead ([].reverse ++ ·) =
        rawSegments delimiter false remaining := by
      cases rawSegments delimiter false remaining <;> simp
    rw [scanPieces_of_cut none pending found, rawSegments_of_cut found]
    simp only [Option.map_none, ih, unchanged]
    simp [dropFinalEmpty_cons more]
  | case3 quoted character rest uncut quote ih =>
    rw [scanPieces_of_quote none pending uncut quote, rawSegments_of_quote uncut quote, ih]
  | case4 quoted character rest uncut plain ih =>
    rw [scanPieces_of_plain none pending uncut plain, rawSegments_of_plain uncut plain, ih]
    cases rawSegments delimiter quoted rest <;> simp

/-- A bounded scan gives the first pieces of the unbounded one, and at least one of them. -/
theorem scanPieces_some (delimiter : List Char) (limit : Nat) (quoted : Bool)
    (pending text : List Char) :
    scanPieces delimiter (some limit) quoted pending text =
      (scanPieces delimiter none quoted pending text).take (max limit 1) := by
  induction quoted, text using rawSegments.induct delimiter generalizing limit pending with
  | case1 quoted =>
    have single : (scanPieces delimiter none quoted pending []).length ≤ 1 := by
      by_cases blank : pending = [] <;> simp [scanPieces, blank]
    rw [List.take_of_length_le (Nat.le_trans single (Nat.le_max_right limit 1))]
    simp [scanPieces]
  | case2 quoted character rest remaining found ih =>
    rw [scanPieces_of_cut (some limit) pending found, scanPieces_of_cut none pending found]
    by_cases last : limit ≤ 1
    · rw [Nat.max_eq_right last]
      simp [last]
    · have more : max limit 1 = max (limit - 1) 1 + 1 := by omega
      simp [last, more, ih]
  | case3 quoted character rest uncut quote ih =>
    rw [scanPieces_of_quote (some limit) pending uncut quote,
      scanPieces_of_quote none pending uncut quote, ih]
  | case4 quoted character rest uncut plain ih =>
    rw [scanPieces_of_plain (some limit) pending uncut plain,
      scanPieces_of_plain none pending uncut plain, ih]

theorem scanPieces_eq_segments (delimiter text : List Char) :
    scanPieces delimiter none false [] text = segments delimiter text := by
  rw [scanPieces_none, segments]
  cases rawSegments delimiter false text <;> simp

/-- Splitting a text up to a bound reads its first segments. -/
theorem splitTokens_eq_tokensOfPieces (text delimiter : List Char) (bound : Option Nat) :
    splitTokens text delimiter bound =
      tokensOfPieces (boundedBy bound (segments delimiter text)) := by
  cases bound with
  | none => simp [splitTokens, boundedBy, scanPieces_eq_segments]
  | some limit => simp [splitTokens, boundedBy, scanPieces_some, scanPieces_eq_segments]

theorem tokensOfPieces_eq_nil_iff {pieces : List (List Char)} :
    tokensOfPieces pieces = [] ↔ ∀ piece ∈ pieces, trim piece = [] := by
  simp [tokensOfPieces]

theorem tokensOfPieces_append (front back : List (List Char)) :
    tokensOfPieces (front ++ back) = tokensOfPieces front ++ tokensOfPieces back := by
  simp [tokensOfPieces]

theorem tokensOfPieces_prefix {front whole : List (List Char)} (begins : front <+: whole) :
    tokensOfPieces front <+: tokensOfPieces whole := by
  rcases begins with ⟨back, rfl⟩
  exact ⟨tokensOfPieces back, (tokensOfPieces_append front back).symm⟩

/-- Blank pieces behind all others give no tokens, whatever the bound. -/
theorem tokensOfPieces_boundedBy_append (bound : Option Nat) (pieces : List (List Char))
    {trailing : List (List Char)} (blank : ∀ piece ∈ trailing, trim piece = []) :
    tokensOfPieces (boundedBy bound (pieces ++ trailing)) =
      tokensOfPieces (boundedBy bound pieces) := by
  cases bound with
  | none =>
    simp only [boundedBy]
    rw [tokensOfPieces_append, tokensOfPieces_eq_nil_iff.mpr blank, List.append_nil]
  | some limit =>
    have blankTaken : ∀ count, tokensOfPieces (trailing.take count) = [] := by
      intro count
      apply tokensOfPieces_eq_nil_iff.mpr
      intro piece pieceMem
      exact blank piece (List.mem_of_mem_take pieceMem)
    simp only [boundedBy]
    rw [List.take_append, tokensOfPieces_append, blankTaken, List.append_nil]

/-- What is left out at the end of a list of segments is blank. -/
theorem exists_dropFinalEmpty_append (pieces : List (List Char)) :
    ∃ trailing, pieces = dropFinalEmpty pieces ++ trailing ∧
      ∀ piece ∈ trailing, trim piece = [] := by
  induction pieces with
  | nil => exact ⟨[], by simp [dropFinalEmpty]⟩
  | cons first others ih =>
    cases others with
    | nil =>
      by_cases empty : first = []
      · exact ⟨[[]], by simp [dropFinalEmpty, empty, trim, trimStart, trimEnd]⟩
      · exact ⟨[], by simp [dropFinalEmpty, empty]⟩
    | cons second rest =>
      rcases ih with ⟨trailing, restEq, blank⟩
      exact ⟨trailing, by rw [dropFinalEmpty, List.cons_append, ← restEq], blank⟩

/-- A final empty segment makes no difference to the tokens. -/
theorem splitTokens_eq_rawSegments (text delimiter : List Char) (bound : Option Nat) :
    splitTokens text delimiter bound =
      tokensOfPieces (boundedBy bound (rawSegments delimiter false text)) := by
  rcases exists_dropFinalEmpty_append (rawSegments delimiter false text) with
    ⟨trailing, rawEq, blank⟩
  rw [splitTokens_eq_tokensOfPieces, rawEq, tokensOfPieces_boundedBy_append bound _ blank,
    segments]

/-- The first piece is the first segment, and the rest of the text has the other segments. -/
theorem rawSegments_scanFirst (delimiter : List Char) (quoted : Bool) (text : List Char) :
    rawSegments delimiter quoted text =
        (scanFirst delimiter quoted text).1 ::
          rawSegments delimiter false (scanFirst delimiter quoted text).2 ∨
      rawSegments delimiter quoted text = [(scanFirst delimiter quoted text).1] ∧
        (scanFirst delimiter quoted text).2 = [] := by
  induction quoted, text using rawSegments.induct delimiter with
  | case1 => simp [scanFirst]
  | case2 quoted character rest remaining found ih =>
    left
    simp [rawSegments_of_cut found, scanFirst, found]
  | case3 quoted character rest uncut quote ih =>
    simpa [rawSegments_of_quote uncut quote, scanFirst, uncut, quote] using ih
  | case4 quoted character rest uncut plain ih =>
    rw [rawSegments_of_plain uncut plain]
    simp only [scanFirst, uncut, plain]
    rcases ih with cut | ⟨single, nothing⟩
    · left
      simp [cut]
    · right
      exact ⟨by simp [single], nothing⟩

/-- A text without segments has an empty first piece, and nothing behind it. In any other text the
first piece is the first segment, and the rest of the text has the other segments. -/
theorem segments_scanFirst (delimiter text : List Char) :
    segments delimiter text =
        (scanFirst delimiter false text).1 ::
          segments delimiter (scanFirst delimiter false text).2 ∨
      segments delimiter text = [] ∧ scanFirst delimiter false text = ([], []) := by
  have more : rawSegments delimiter false (scanFirst delimiter false text).2 ≠ [] :=
    rawSegments_ne_nil _ _ _
  rcases rawSegments_scanFirst delimiter false text with cut | ⟨single, nothing⟩
  · left
    rw [segments, cut, dropFinalEmpty_cons more, segments]
  · by_cases blank : (scanFirst delimiter false text).1 = []
    · right
      exact ⟨by simp [segments, single, blank, dropFinalEmpty], Prod.ext blank nothing⟩
    · left
      simp [segments, single, nothing, blank, dropFinalEmpty]

end Switchboard
