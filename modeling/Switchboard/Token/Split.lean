import Switchboard.Text.Blank
import Switchboard.Text.Start

/-!
# Splitting a text into tokens

A text is cut at its delimiters. Between a quote character and the next one nothing is cut, and
either of the two quote characters opens or closes such a span. Quote characters are never part
of a token. Tokens are trimmed, and blank ones do not count.

A bound limits how many pieces are cut off before the scan stops, blank ones included. What
follows the last of them is dropped. A bound of zero acts like a bound of one.
-/

namespace Switchboard

/-- Whether a character opens or closes a quoted span. -/
def isQuote (character : Char) : Bool :=
  character == '\x27' || character == '\x22'

/-- The text behind a delimiter at its beginning. The empty delimiter is never found. -/
def afterDelimiter? (delimiter text : List Char) : Option (List Char) :=
  if delimiter.isEmpty then none else dropStart? delimiter text

theorem append_of_afterDelimiter? {delimiter text remaining : List Char}
    (found : afterDelimiter? delimiter text = some remaining) :
    delimiter ≠ [] ∧ text = delimiter ++ remaining := by
  unfold afterDelimiter? at found
  split at found
  · simp at found
  · rename_i notEmpty
    refine ⟨by simpa using notEmpty, ?_⟩
    exact dropStart?_eq_some_iff.mp found

theorem length_lt_of_afterDelimiter? {delimiter text remaining : List Char}
    (found : afterDelimiter? delimiter text = some remaining) :
    remaining.length < text.length := by
  obtain ⟨notEmpty, rfl⟩ := append_of_afterDelimiter? found
  have positive : 0 < delimiter.length := List.length_pos_iff.mpr notEmpty
  simp only [List.length_append]
  omega

/-- The text behind a delimiter at its beginning, unless the text lies inside a quoted span. -/
def cutHere? (delimiter : List Char) (quoted : Bool) (text : List Char) : Option (List Char) :=
  if quoted then none else afterDelimiter? delimiter text

theorem afterDelimiter?_of_cutHere? {delimiter text remaining : List Char} {quoted : Bool}
    (found : cutHere? delimiter quoted text = some remaining) :
    quoted = false ∧ afterDelimiter? delimiter text = some remaining := by
  cases quoted <;> simp_all [cutHere?]

/-- The pieces cut from a text, where `pending` holds the characters of the current piece in
reverse. A last piece that no delimiter ends counts only if it is not empty. -/
def scanPieces (delimiter : List Char) (bound : Option Nat) (quoted : Bool) (pending : List Char)
    (text : List Char) : List (List Char) :=
  match text with
  | [] => if pending.isEmpty then [] else [pending.reverse]
  | character :: rest =>
    match found : cutHere? delimiter quoted (character :: rest) with
    | some remaining =>
      if bound.any (· ≤ 1) then
        [pending.reverse]
      else
        pending.reverse :: scanPieces delimiter (bound.map (· - 1)) false [] remaining
    | none =>
      if isQuote character then
        scanPieces delimiter bound (!quoted) pending rest
      else
        scanPieces delimiter bound quoted (character :: pending) rest
termination_by text.length
decreasing_by
  · exact length_lt_of_afterDelimiter? (afterDelimiter?_of_cutHere? found).2
  · simp
  · simp

/-- Pieces trimmed, without the blank ones. -/
def tokensOfPieces (pieces : List (List Char)) : List (List Char) :=
  (pieces.map trim).filter (!·.isEmpty)

/-- The tokens of a text, from at most `bound` pieces. -/
def splitTokens (text delimiter : List Char) (bound : Option Nat) : List (List Char) :=
  tokensOfPieces (scanPieces delimiter bound false [] text)

/-- The characters before the first unquoted delimiter, without quote characters, and the text
behind that delimiter. -/
def scanFirst (delimiter : List Char) (quoted : Bool) : List Char → List Char × List Char
  | [] => ([], [])
  | character :: rest =>
    match cutHere? delimiter quoted (character :: rest) with
    | some remaining => ([], remaining)
    | none =>
      if isQuote character then
        scanFirst delimiter (!quoted) rest
      else
        let (head, remaining) := scanFirst delimiter quoted rest
        (character :: head, remaining)

/-- The trimmed first piece of a text and the text behind the delimiter that ends it. Without such
a delimiter nothing remains. -/
def splitFirst (text delimiter : List Char) : List Char × List Char :=
  let (head, remaining) := scanFirst delimiter false text
  (trim head, remaining)

theorem length_scanFirst_lt (delimiter : List Char) (quoted : Bool) (text : List Char)
    (notEmpty : text ≠ []) : (scanFirst delimiter quoted text).2.length < text.length := by
  induction text generalizing quoted with
  | nil => exact absurd rfl notEmpty
  | cons character rest ih =>
    have shrinks : ∀ state, (scanFirst delimiter state rest).2.length < rest.length + 1 := by
      intro state
      cases rest with
      | nil => simp [scanFirst]
      | cons next others => exact Nat.lt_succ_of_lt (ih state (by simp))
    rw [scanFirst]
    split
    · rename_i remaining found
      exact length_lt_of_afterDelimiter? (afterDelimiter?_of_cutHere? found).2
    · split
      · exact shrinks _
      · exact shrinks _

theorem length_splitFirst_lt {text : List Char} (delimiter : List Char) (notEmpty : text ≠ []) :
    (splitFirst text delimiter).2.length < text.length :=
  length_scanFirst_lt delimiter false text notEmpty

end Switchboard
