import Switchboard.Proofs.Text.Trimming
import Switchboard.Proofs.Token.Enclosure

/-!
# Conservation of a text by splitting

The segments of a text hold every character of it but the delimiters that it is cut at and the
quote characters. If the delimiter has no quote character itself, joining the segments with it
gives back the text without its quote characters, wherever quoted spans begin and end and whether
the last one is closed or not. Tokens are the segments without what is blank about them, so a
bound decides only how many segments are read.
-/

namespace Switchboard

theorem intercalate_rawSegments {delimiter : List Char} (unquoted : Unquoted delimiter)
    (quoted : Bool) (text : List Char) :
    delimiter.intercalate (rawSegments delimiter quoted text) = text.filter (!isQuote ·) := by
  induction quoted, text using rawSegments.induct delimiter with
  | case1 => simp
  | case2 quoted character rest remaining found ih =>
    have cut := append_of_afterDelimiter? (afterDelimiter?_of_cutHere? found).2
    have kept : delimiter.filter (!isQuote ·) = delimiter := by
      apply List.filter_eq_self.mpr
      intro other otherMem
      simp [unquoted other otherMem]
    rcases List.exists_cons_of_ne_nil (rawSegments_ne_nil delimiter false remaining) with
      ⟨second, others, othersEq⟩
    rw [rawSegments_of_cut found, cut.2, List.filter_append, kept, ← ih, othersEq,
      List.intercalate_cons_cons, List.nil_append]
  | case3 quoted character rest uncut quote ih =>
    rw [rawSegments_of_quote uncut quote, ih]
    simp [quote]
  | case4 quoted character rest uncut plain ih =>
    rcases List.exists_cons_of_ne_nil (rawSegments_ne_nil delimiter quoted rest) with
      ⟨first, others, othersEq⟩
    have joined : delimiter.intercalate ((character :: first) :: others) =
        character :: delimiter.intercalate (first :: others) := by
      cases others <;> simp [List.intercalate_cons_cons]
    rw [rawSegments_of_plain uncut plain, othersEq, List.modifyHead_cons, joined, ← othersEq, ih]
    simp [plain]

theorem unquoted_of_mem_rawSegments {delimiter text segment : List Char} {quoted : Bool}
    (present : segment ∈ rawSegments delimiter quoted text) : Unquoted segment := by
  induction quoted, text using rawSegments.induct delimiter generalizing segment with
  | case1 => simp_all [Unquoted]
  | case2 quoted character rest remaining found ih =>
    rw [rawSegments_of_cut found] at present
    rcases List.mem_cons.mp present with rfl | later
    · simp [Unquoted]
    · exact ih later
  | case3 quoted character rest uncut quote ih =>
    rw [rawSegments_of_quote uncut quote] at present
    exact ih present
  | case4 quoted character rest uncut plain ih =>
    rcases List.exists_cons_of_ne_nil (rawSegments_ne_nil delimiter quoted rest) with
      ⟨first, others, othersEq⟩
    rw [rawSegments_of_plain uncut plain, othersEq, List.modifyHead_cons] at present
    rw [othersEq] at ih
    rcases List.mem_cons.mp present with rfl | later
    · intro other otherMem
      rcases List.mem_cons.mp otherMem with rfl | otherMem
      · simpa using plain
      · exact ih (List.mem_cons_self ..) other otherMem
    · exact ih (List.mem_cons_of_mem _ later)

/-- No quote character gets into a first piece. -/
theorem unquoted_scanFirst (delimiter : List Char) (quoted : Bool) (text : List Char) :
    Unquoted (scanFirst delimiter quoted text).1 := by
  have firstMem : (scanFirst delimiter quoted text).1 ∈ rawSegments delimiter quoted text := by
    rcases rawSegments_scanFirst delimiter quoted text with cut | ⟨single, _⟩
    · simp [cut]
    · simp [single]
  exact unquoted_of_mem_rawSegments firstMem

theorem plain_of_mem_splitTokens {text delimiter token : List Char} {bound : Option Nat}
    (present : token ∈ splitTokens text delimiter bound) :
    token ≠ [] ∧ trim token = token ∧ Unquoted token := by
  rw [splitTokens_eq_rawSegments, tokensOfPieces] at present
  rcases List.mem_filter.mp present with ⟨trimmedMem, filled⟩
  rcases List.mem_map.mp trimmedMem with ⟨segment, segmentMem, rfl⟩
  have among : segment ∈ rawSegments delimiter false text := by
    cases bound with
    | none => exact segmentMem
    | some limit => exact List.mem_of_mem_take segmentMem
  refine ⟨by simpa using filled, trim_trim segment, ?_⟩
  intro character characterMem
  exact unquoted_of_mem_rawSegments among character (mem_of_mem_trim characterMem)

theorem length_splitTokens_le (text delimiter : List Char) (limit : Nat) :
    (splitTokens text delimiter (some limit)).length ≤ max limit 1 := by
  rw [splitTokens_eq_tokensOfPieces, boundedBy, tokensOfPieces]
  apply (List.length_filter_le _ _).trans
  simp only [List.length_map, List.length_take]
  omega

/-- A greater bound only adds tokens at the end, and so does giving up the bound. -/
theorem splitTokens_prefix (text delimiter : List Char) {limit : Nat} {wider : Option Nat}
    (allows : ∀ larger, wider = some larger → limit ≤ larger) :
    splitTokens text delimiter (some limit) <+: splitTokens text delimiter wider := by
  simp only [splitTokens_eq_tokensOfPieces]
  apply tokensOfPieces_prefix
  cases wider with
  | none => exact List.take_prefix _ _
  | some larger =>
    have least := allows larger rfl
    apply List.take_prefix_take_left
    omega

/-- Joined with a delimiter without quote characters, the segments of a text are the text without
its quote characters. Its tokens are its segments, trimmed and without the blank ones, and those up
to a bound are the same for the first segments. The scan cuts just these segments, of which it
leaves out a final one that is empty. -/
theorem splitTokens_conserves (text delimiter : List Char) :
    scanPieces delimiter none false [] text =
        dropFinalEmpty (rawSegments delimiter false text) ∧
    (Unquoted delimiter →
      delimiter.intercalate (rawSegments delimiter false text) = text.filter (!isQuote ·)) ∧
    splitTokens text delimiter none =
        ((rawSegments delimiter false text).map trim).filter (!·.isEmpty) ∧
    (∀ limit, splitTokens text delimiter (some limit) =
        (((rawSegments delimiter false text).take (max limit 1)).map trim).filter (!·.isEmpty)) ∧
    (∀ limit larger, limit ≤ larger →
      splitTokens text delimiter (some limit) <+: splitTokens text delimiter (some larger)) ∧
    (∀ limit, splitTokens text delimiter (some limit) <+: splitTokens text delimiter none ∧
      (splitTokens text delimiter (some limit)).length ≤ max limit 1) ∧
    ∀ bound, ∀ token ∈ splitTokens text delimiter bound,
      token ≠ [] ∧ trim token = token ∧ Unquoted token := by
  refine ⟨scanPieces_eq_segments delimiter text, ?_, ?_, ?_, ?_, ?_, ?_⟩
  · intro unquoted
    exact intercalate_rawSegments unquoted false text
  · exact splitTokens_eq_rawSegments text delimiter none
  · intro limit
    exact splitTokens_eq_rawSegments text delimiter (some limit)
  · intro limit larger least
    apply splitTokens_prefix
    rintro _ ⟨⟩
    exact least
  · intro limit
    refine ⟨?_, length_splitTokens_le text delimiter limit⟩
    apply splitTokens_prefix
    rintro _ ⟨⟩
  · intro bound token present
    exact plain_of_mem_splitTokens present

/-- A quoted delimiter, an empty segment, and a quoted span that is left open with a delimiter at
its end. -/
theorem splitTokens_conserves_quoted :
    rawSegments "::".toList false "a:: 'b::c'::::\x22d::".toList =
      ["a".toList, " b::c".toList, [], "d::".toList] ∧
    Unquoted "::".toList ∧
    "::".toList.intercalate ["a".toList, " b::c".toList, [], "d::".toList] =
      "a:: 'b::c'::::\x22d::".toList.filter (!isQuote ·) ∧
    splitTokens "a:: 'b::c'::::\x22d::".toList "::".toList none =
      ["a".toList, "b::c".toList, "d::".toList] ∧
    1 ≤ 3 ∧ splitTokens "a:: 'b::c'::::\x22d::".toList "::".toList (some 1) <+:
      splitTokens "a:: 'b::c'::::\x22d::".toList "::".toList (some 3) ∧
    "b::c".toList ∈ splitTokens "a:: 'b::c'::::\x22d::".toList "::".toList none ∧
    Unquoted "b::c".toList := by
  have cut : rawSegments "::".toList false "a:: 'b::c'::::\x22d::".toList =
      ["a".toList, " b::c".toList, [], "d::".toList] := by
    decide +kernel
  have unquoted : Unquoted "::".toList := by decide
  rcases splitTokens_conserves "a:: 'b::c'::::\x22d::".toList "::".toList with
    ⟨_, joined, unbounded, _, wider, _, plain⟩
  have joined := joined unquoted
  rw [cut] at joined unbounded
  have tokensEq : splitTokens "a:: 'b::c'::::\x22d::".toList "::".toList none =
      ["a".toList, "b::c".toList, "d::".toList] := by
    rw [unbounded]
    decide
  have present : "b::c".toList ∈ splitTokens "a:: 'b::c'::::\x22d::".toList "::".toList none := by
    rw [tokensEq]
    decide
  exact ⟨cut, unquoted, joined, tokensEq, by decide, wider 1 3 (by decide), present,
    (plain none _ present).2.2⟩

end Switchboard
