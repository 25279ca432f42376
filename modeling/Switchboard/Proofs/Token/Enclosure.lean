import Switchboard.Proofs.Token.Segments

/-!
# Texts between quote characters

A text without quote characters can be written between two copies of one, and then any delimiter
that does not begin with that quote character is a part of it. Texts that are written in this way
and joined by a delimiter are the segments of the whole, and both ways of splitting give them back.
-/

namespace Switchboard

/-- Whether a delimiter leaves a quote character alone, so that texts can be put between two copies
of it. -/
def Encloses (delimiter : List Char) (quote : Char) : Prop :=
  isQuote quote = true ∧ delimiter.head? ≠ some quote

instance (delimiter : List Char) (quote : Char) : Decidable (Encloses delimiter quote) :=
  inferInstanceAs (Decidable (_ ∧ _))

/-- A text between two copies of a quote character. -/
def enclose (quote : Char) (text : List Char) : List Char :=
  quote :: (text ++ [quote])

/-- Texts, each between copies of its own quote character, with a delimiter between them. -/
def joinEnclosed (delimiter quotes : List Char) (texts : List (List Char)) : List Char :=
  delimiter.intercalate (List.zipWith enclose quotes texts)

/-- Whether a text can be put between quote characters. -/
def Unquoted (text : List Char) : Prop :=
  ∀ character ∈ text, isQuote character = false

instance (text : List Char) : Decidable (Unquoted text) :=
  List.decidableBAll _ text

@[simp]
theorem cutHere?_quoted (delimiter text : List Char) : cutHere? delimiter true text = none := by
  simp [cutHere?]

theorem cutHere?_delimiter {delimiter : List Char} (filled : delimiter ≠ []) (rest : List Char) :
    cutHere? delimiter false (delimiter ++ rest) = some rest := by
  have start : dropStart? delimiter (delimiter ++ rest) = some rest :=
    dropStart?_eq_some_iff.mpr rfl
  simp [cutHere?, afterDelimiter?, filled, start]

theorem cutHere?_quote {delimiter : List Char} {quote : Char} (encloses : Encloses delimiter quote)
    (rest : List Char) : cutHere? delimiter false (quote :: rest) = none := by
  cases delimiter with
  | nil => simp [cutHere?, afterDelimiter?]
  | cons first others =>
    have different : quote ≠ first := by
      rintro rfl
      exact encloses.2 rfl
    simp [cutHere?, afterDelimiter?, dropStart?, different]

/-- Inside a quoted span nothing is cut until the span is closed. -/
theorem rawSegments_unquoted {delimiter text : List Char} {quote : Char} (unquoted : Unquoted text)
    (closes : isQuote quote = true) (rest : List Char) :
    rawSegments delimiter true (text ++ quote :: rest) =
      (rawSegments delimiter false rest).modifyHead (text ++ ·) := by
  induction text with
  | nil =>
    rw [List.nil_append, rawSegments_of_quote (cutHere?_quoted _ _) closes, Bool.not_true]
    cases rawSegments delimiter false rest <;> simp
  | cons character others ih =>
    have plain : ¬isQuote character = true := by
      simp [unquoted character (by simp)]
    have still : Unquoted others := by
      intro other otherMem
      exact unquoted other (List.mem_cons_of_mem _ otherMem)
    rw [List.cons_append, rawSegments_of_plain (cutHere?_quoted _ _) plain, ih still]
    cases rawSegments delimiter false rest <;> simp

/-- An enclosed text goes to the first segment as a whole. -/
theorem rawSegments_enclose {delimiter text : List Char} {quote : Char}
    (encloses : Encloses delimiter quote) (unquoted : Unquoted text) (rest : List Char) :
    rawSegments delimiter false (enclose quote text ++ rest) =
      (rawSegments delimiter false rest).modifyHead (text ++ ·) := by
  have opened := rawSegments_of_quote
    (cutHere?_quote encloses (text ++ [quote] ++ rest)) encloses.1
  rw [enclose, List.cons_append, opened, List.append_assoc]
  exact rawSegments_unquoted unquoted encloses.1 rest

theorem rawSegments_delimiter {delimiter : List Char} (filled : delimiter ≠ [])
    (rest : List Char) :
    rawSegments delimiter false (delimiter ++ rest) = [] :: rawSegments delimiter false rest := by
  have found := cutHere?_delimiter filled rest
  cases delimiter with
  | nil => exact absurd rfl filled
  | cons first others => exact rawSegments_of_cut found

theorem joinEnclosed_cons_cons (delimiter quotes text next : List Char) (quote following : Char)
    (later : List (List Char)) :
    joinEnclosed delimiter (quote :: following :: quotes) (text :: next :: later) =
      enclose quote text ++
        (delimiter ++ joinEnclosed delimiter (following :: quotes) (next :: later)) := by
  simp [joinEnclosed, List.intercalate_cons_cons]

theorem rawSegments_joinEnclosed {delimiter quotes : List Char} {texts : List (List Char)}
    (filled : delimiter ≠ []) (encloses : ∀ quote ∈ quotes, Encloses delimiter quote)
    (enough : quotes.length = texts.length) (unquoted : ∀ text ∈ texts, Unquoted text)
    (more : texts ≠ []) :
    rawSegments delimiter false (joinEnclosed delimiter quotes texts) = texts := by
  induction texts generalizing quotes with
  | nil => exact absurd rfl more
  | cons text others ih =>
    cases quotes with
    | nil => simp at enough
    | cons quote rest =>
      have opens := encloses quote (by simp)
      have plain := unquoted text (by simp)
      cases others with
      | nil =>
        have alone := rawSegments_enclose opens plain []
        simpa [joinEnclosed] using alone
      | cons next later =>
        cases rest with
        | nil => simp at enough
        | cons following quotesLeft =>
          have onward : rawSegments delimiter false
              (joinEnclosed delimiter (following :: quotesLeft) (next :: later)) =
                next :: later := by
            apply ih
            · intro quote quoteMem
              exact encloses quote (List.mem_cons_of_mem _ quoteMem)
            · simpa using enough
            · intro text textMem
              exact unquoted text (List.mem_cons_of_mem _ textMem)
            · simp
          rw [joinEnclosed_cons_cons, rawSegments_enclose opens plain,
            rawSegments_delimiter filled, onward]
          simp

theorem dropFinalEmpty_of_filled {pieces : List (List Char)}
    (filled : ∀ piece ∈ pieces, piece ≠ []) : dropFinalEmpty pieces = pieces := by
  induction pieces with
  | nil => rfl
  | cons first others ih =>
    cases others with
    | nil => simp [dropFinalEmpty, filled first (by simp)]
    | cons second rest =>
      rw [dropFinalEmpty, ih]
      intro piece pieceMem
      exact filled piece (List.mem_cons_of_mem _ pieceMem)

/-- The segments of joined texts are these texts. -/
theorem segments_joinEnclosed {delimiter quotes : List Char} {texts : List (List Char)}
    (filled : delimiter ≠ []) (encloses : ∀ quote ∈ quotes, Encloses delimiter quote)
    (enough : quotes.length = texts.length)
    (plain : ∀ text ∈ texts, text ≠ [] ∧ Unquoted text) :
    segments delimiter (joinEnclosed delimiter quotes texts) = texts := by
  cases texts with
  | nil => simp [joinEnclosed]
  | cons text others =>
    rw [segments, rawSegments_joinEnclosed filled encloses enough]
    · apply dropFinalEmpty_of_filled
      intro piece pieceMem
      exact (plain piece pieceMem).1
    · intro piece pieceMem
      exact (plain piece pieceMem).2
    · simp

theorem tokensOfPieces_of_trimmed {pieces : List (List Char)}
    (trimmed : ∀ piece ∈ pieces, piece ≠ [] ∧ trim piece = piece) :
    tokensOfPieces pieces = pieces := by
  have kept : pieces.map trim = pieces := by
    calc
      pieces.map trim
      _ = pieces.map id := List.map_congr_left fun piece pieceMem => (trimmed piece pieceMem).2
      _ = pieces := List.map_id pieces
  rw [tokensOfPieces, kept, List.filter_eq_self]
  intro piece pieceMem
  simpa using (trimmed piece pieceMem).1

theorem scanFirst_unquoted {delimiter text : List Char} {quote : Char} (unquoted : Unquoted text)
    (closes : isQuote quote = true) (rest : List Char) :
    scanFirst delimiter true (text ++ quote :: rest) =
      (text ++ (scanFirst delimiter false rest).1, (scanFirst delimiter false rest).2) := by
  induction text with
  | nil => simp [scanFirst, closes]
  | cons character others ih =>
    have plain : isQuote character = false := unquoted character (by simp)
    have still : Unquoted others := by
      intro other otherMem
      exact unquoted other (List.mem_cons_of_mem _ otherMem)
    simp [scanFirst, plain, ih still]

/-- A first piece that begins with an enclosed text goes on behind it. -/
theorem scanFirst_enclose {delimiter text : List Char} {quote : Char}
    (encloses : Encloses delimiter quote) (unquoted : Unquoted text) (rest : List Char) :
    scanFirst delimiter false (enclose quote text ++ rest) =
      (text ++ (scanFirst delimiter false rest).1, (scanFirst delimiter false rest).2) := by
  have inside : scanFirst delimiter true (text ++ quote :: rest) =
      (text ++ (scanFirst delimiter false rest).1, (scanFirst delimiter false rest).2) :=
    scanFirst_unquoted unquoted encloses.1 rest
  rw [enclose, List.cons_append, scanFirst, cutHere?_quote encloses]
  simp [encloses.1, inside]

theorem scanFirst_delimiter {delimiter : List Char} (filled : delimiter ≠ [])
    (rest : List Char) : scanFirst delimiter false (delimiter ++ rest) = ([], rest) := by
  have found := cutHere?_delimiter filled rest
  cases delimiter with
  | nil => exact absurd rfl filled
  | cons first others =>
    rw [List.cons_append] at found ⊢
    rw [scanFirst, found]

/-- The first of joined texts is split off, and exactly the text of the others remains. -/
theorem splitFirst_joinEnclosed {delimiter quotes text : List Char} {quote : Char}
    {others : List (List Char)} (filled : delimiter ≠ []) (encloses : Encloses delimiter quote)
    (enough : quotes.length = others.length) (trimmed : trim text = text)
    (unquoted : Unquoted text) :
    splitFirst (joinEnclosed delimiter (quote :: quotes) (text :: others)) delimiter =
      (text, joinEnclosed delimiter quotes others) := by
  have scanned : scanFirst delimiter false
      (joinEnclosed delimiter (quote :: quotes) (text :: others)) =
        (text, joinEnclosed delimiter quotes others) := by
    cases others with
    | nil =>
      have alone := scanFirst_enclose encloses unquoted []
      simpa [joinEnclosed, scanFirst] using alone
    | cons next later =>
      cases quotes with
      | nil => simp at enough
      | cons following quotesLeft =>
        rw [joinEnclosed_cons_cons, scanFirst_enclose encloses unquoted,
          scanFirst_delimiter filled]
        simp
  simp only [splitFirst, scanned, trimmed]

/-- Texts that are not empty, not blank at an end and free of quote characters are split back after
each of them was put between copies of a quote character that the delimiter does not begin with. A
text may hold the delimiter, and the delimiter may hold quote characters. -/
theorem split_joinEnclosed {delimiter quotes : List Char} {texts : List (List Char)}
    (filled : delimiter ≠ []) (encloses : ∀ quote ∈ quotes, Encloses delimiter quote)
    (enough : quotes.length = texts.length)
    (plain : ∀ text ∈ texts, text ≠ [] ∧ trim text = text ∧ Unquoted text) :
    splitTokens (joinEnclosed delimiter quotes texts) delimiter none = texts ∧
    (∀ limit, splitTokens (joinEnclosed delimiter quotes texts) delimiter (some limit) =
      texts.take (max limit 1)) ∧
    ∀ quote quotesLeft text others, quotes = quote :: quotesLeft → texts = text :: others →
      splitFirst (joinEnclosed delimiter quotes texts) delimiter =
        (text, joinEnclosed delimiter quotesLeft others) := by
  have segmentsEq : segments delimiter (joinEnclosed delimiter quotes texts) = texts := by
    apply segments_joinEnclosed filled encloses enough
    intro text textMem
    exact ⟨(plain text textMem).1, (plain text textMem).2.2⟩
  have tokensEq {pieces : List (List Char)} (among : ∀ piece ∈ pieces, piece ∈ texts) :
      tokensOfPieces pieces = pieces := by
    apply tokensOfPieces_of_trimmed
    intro piece pieceMem
    have piecePlain := plain piece (among piece pieceMem)
    exact ⟨piecePlain.1, piecePlain.2.1⟩
  refine ⟨?_, ?_, ?_⟩
  · rw [splitTokens_eq_tokensOfPieces, segmentsEq, boundedBy]
    exact tokensEq fun _ => id
  · intro limit
    rw [splitTokens_eq_tokensOfPieces, segmentsEq, boundedBy]
    exact tokensEq fun _ => List.mem_of_mem_take
  · rintro quote quotesLeft text others rfl rfl
    have textPlain := plain text (by simp)
    exact splitFirst_joinEnclosed filled (encloses quote (by simp)) (by simpa using enough)
      textPlain.2.1 textPlain.2.2

/-- A delimiter with a quote character, and a text whose end and closing quote look like it. -/
theorem split_joinEnclosed_overlap :
    Encloses [':', '\x22'] '\x27' ∧ Encloses [':', '\x22'] '\x22' ∧
    joinEnclosed [':', '\x22'] ['\x22', '\x27'] [['a', ':'], ['b', ' ', 'c']] =
      "\x22a:\x22:\x22'b c'".toList ∧
    splitTokens "\x22a:\x22:\x22'b c'".toList [':', '\x22'] none = [['a', ':'], ['b', ' ', 'c']] ∧
    splitTokens "\x22a:\x22:\x22'b c'".toList [':', '\x22'] (some 0) = [['a', ':']] ∧
    splitFirst "\x22a:\x22:\x22'b c'".toList [':', '\x22'] = (['a', ':'], "'b c'".toList) := by
  have single : Encloses [':', '\x22'] '\x27' := by decide
  have double : Encloses [':', '\x22'] '\x22' := by decide
  have joined : joinEnclosed [':', '\x22'] ['\x22', '\x27'] [['a', ':'], ['b', ' ', 'c']] =
      "\x22a:\x22:\x22'b c'".toList := by decide
  have left : joinEnclosed [':', '\x22'] ['\x27'] [['b', ' ', 'c']] = "'b c'".toList := by decide
  have encloses : ∀ quote ∈ ['\x22', '\x27'], Encloses [':', '\x22'] quote := by
    simp [single, double]
  have plain : ∀ text ∈ [['a', ':'], ['b', ' ', 'c']],
      text ≠ [] ∧ trim text = text ∧ Unquoted text := by
    simp only [List.forall_mem_cons]
    decide
  rcases split_joinEnclosed (List.cons_ne_nil _ _) encloses rfl plain with
    ⟨unbounded, bounded, first⟩
  rw [joined] at unbounded bounded first
  refine ⟨single, double, joined, unbounded, bounded 0, ?_⟩
  rw [first _ _ _ _ rfl rfl, left]

end Switchboard
