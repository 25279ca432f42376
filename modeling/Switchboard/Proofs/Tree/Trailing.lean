import Mathlib.Algebra.Group.Nat.Even
import Switchboard.Proofs.Tree.Walk

/-!
# Delimiters at the end of a text

A delimiter of one character that follows a text outside of quoted spans ends its last segment and
begins an empty one. So more of them at the end of a text only add empty segments. A walk does not
see these: they give no tokens, whatever the bound, and a blank segment names no child, so a walk
that comes to them ends there as if nothing were left.

Quote characters must be paired, since a delimiter inside of a quoted span is a part of it.
-/

namespace Switchboard

theorem cutHere?_single (separator character : Char) (quoted : Bool) (rest : List Char) :
    cutHere? [separator] quoted (character :: rest) =
      if quoted = false ∧ character = separator then some rest else none := by
  cases quoted <;> simp [cutHere?, afterDelimiter?, dropStart?]

/-- A separator behind a text that leaves no quoted span open ends the last segment of the text. -/
theorem rawSegments_append_separator {separator : Char} (plain : isQuote separator = false)
    {quoted : Bool} {text : List Char} (closed : (quoted.toNat + text.countP isQuote) % 2 = 0)
    (rest : List Char) :
    rawSegments [separator] quoted (text ++ separator :: rest) =
      rawSegments [separator] quoted text ++ rawSegments [separator] false rest := by
  induction text generalizing quoted with
  | nil =>
    have unquoted : quoted = false := by
      cases quoted
      · rfl
      · simp at closed
    have found : cutHere? [separator] quoted (separator :: rest) = some rest := by
      simp [cutHere?_single, unquoted]
    rw [List.nil_append, rawSegments_of_cut found, rawSegments_nil, List.singleton_append]
  | cons character others ih =>
    rw [List.cons_append]
    by_cases here : quoted = false ∧ character = separator
    · rcases here with ⟨rfl, rfl⟩
      have stillClosed : (false.toNat + others.countP isQuote) % 2 = 0 := by
        simpa [List.countP_cons, plain] using closed
      have found (after : List Char) :
          cutHere? [character] false (character :: after) = some after := by
        simp [cutHere?_single]
      rw [rawSegments_of_cut (found _), rawSegments_of_cut (found _), ih stillClosed,
        List.cons_append]
    · have uncut (after : List Char) :
          cutHere? [separator] quoted (character :: after) = none := by
        simp [cutHere?_single, here]
      by_cases quote : isQuote character = true
      · have stillClosed : ((!quoted).toNat + others.countP isQuote) % 2 = 0 := by
          have flipped : (!quoted).toNat + quoted.toNat = 1 := by cases quoted <;> rfl
          rw [List.countP_cons, if_pos quote] at closed
          omega
        rw [rawSegments_of_quote (uncut _) quote, rawSegments_of_quote (uncut _) quote,
          ih stillClosed]
      · have stillClosed : (quoted.toNat + others.countP isQuote) % 2 = 0 := by
          simpa [List.countP_cons, quote] using closed
        rcases List.exists_cons_of_ne_nil (rawSegments_ne_nil [separator] quoted others) with
          ⟨first, later, othersEq⟩
        rw [rawSegments_of_plain (uncut _) quote, rawSegments_of_plain (uncut _) quote,
          ih stillClosed, othersEq, List.cons_append, List.modifyHead_cons, List.modifyHead_cons,
          List.cons_append]

/-- Each separator at the end of a text with paired quote characters adds an empty segment. -/
theorem rawSegments_append_replicate {separator : Char} (plain : isQuote separator = false)
    {text : List Char} (paired : Even (text.countP isQuote)) (count : Nat) :
    rawSegments [separator] false (text ++ List.replicate count separator) =
      rawSegments [separator] false text ++ List.replicate count [] := by
  induction count generalizing text with
  | zero => simp
  | succ count ih =>
    have closed : (false.toNat + text.countP isQuote) % 2 = 0 := by
      simpa using Nat.even_iff.mp paired
    have alone : rawSegments [separator] false (List.replicate count separator) =
        [] :: List.replicate count [] := by
      simpa using @ih [] (by simp)
    rw [List.replicate_succ, rawSegments_append_separator plain closed, alone,
      ← List.replicate_succ]

namespace CommandTree

variable {Action : Type} {tree : CommandTree Action}

/-- Blank segments behind all others change nothing on a walk. -/
theorem WellFormed.walk_append_blank (wellFormed : tree.WellFormed) (check : ScopeCheck)
    (channelKind : ChannelKind) (id : NodeId) (remaining : List (List Char))
    {trailing : List (List Char)} (blank : ∀ segment ∈ trailing, trim segment = []) :
    tree.walk check channelKind id (remaining ++ trailing) =
      tree.walk check channelKind id remaining := by
  -- The walk takes the segments one by one, so the induction is on those before the blank ones.
  induction remaining generalizing id with
  | nil =>
    rw [walk.eq_def, walk.eq_def tree check channelKind id []]
    cases nodeEq : tree.node? id with
    | none => rfl
    | some node =>
      simp only [tokensOfPieces_boundedBy_append _ _ blank]
      cases node.handler? (tokensOfPieces (boundedBy node.maxArity? [])).length with
      | some handler => rfl
      | none =>
        cases trailing with
        | nil => rfl
        | cons first others =>
          have unnamed : node.childId? (String.ofList []) = none :=
            wellFormed.childId?_empty nodeEq
          simp [blank first (by simp), unnamed]
  | cons first others ih =>
    rw [walk.eq_def, walk.eq_def tree check channelKind id (first :: others)]
    cases nodeEq : tree.node? id with
    | none => rfl
    | some node =>
      simp only [tokensOfPieces_boundedBy_append _ _ blank]
      cases node.handler? (tokensOfPieces (boundedBy node.maxArity? (first :: others))).length with
      | some handler => rfl
      | none =>
        simp only [List.cons_append]
        cases node.childId? (String.ofList (trim first)) with
        | none => rfl
        | some child => exact ih child

/-- A walk over the segments of a text does not notice whether a final empty one is among them. -/
theorem WellFormed.walk_segments (wellFormed : tree.WellFormed) (check : ScopeCheck)
    (channelKind : ChannelKind) (id : NodeId) (delimiter text : List Char) :
    tree.walk check channelKind id (segments delimiter text) =
      tree.walk check channelKind id (rawSegments delimiter false text) := by
  rcases exists_dropFinalEmpty_append (rawSegments delimiter false text) with
    ⟨trailing, rawEq, blank⟩
  rw [rawEq, wellFormed.walk_append_blank check channelKind id _ blank, segments]

/-- Delimiters at the end of a text never change its answer, if the delimiter is one character that
is no quote character and the quote characters of the text are paired. -/
theorem resolve_append_separators (reachable : tree.Reachable) (check : ScopeCheck)
    (channelKind : ChannelKind) {separator : Char} (plain : isQuote separator = false)
    (id : NodeId) {text : List Char} (paired : Even (text.countP isQuote)) (count : Nat) :
    tree.resolve check channelKind [separator] id (text ++ List.replicate count separator) =
      tree.resolve check channelKind [separator] id text := by
  have wellFormed := reachable.wellFormed
  have blank : ∀ segment ∈ List.replicate count ([] : List Char), trim segment = [] := by
    intro segment segmentMem
    rw [List.eq_of_mem_replicate segmentMem]
    rfl
  calc
    tree.resolve check channelKind [separator] id (text ++ List.replicate count separator)
    _ = tree.walk check channelKind id
          (rawSegments [separator] false (text ++ List.replicate count separator)) := by
      rw [wellFormed.resolve_segments, wellFormed.walk_segments]
    _ = tree.walk check channelKind id
          (rawSegments [separator] false text ++ List.replicate count []) := by
      rw [rawSegments_append_replicate plain paired]
    _ = tree.walk check channelKind id (rawSegments [separator] false text) :=
      wellFormed.walk_append_blank check channelKind id _ blank
    _ = tree.resolve check channelKind [separator] id text := by
      rw [wellFormed.resolve_segments, wellFormed.walk_segments]

/-- Three delimiters behind a code that is written between quote characters. The node of the code
reads the first segment behind it, which the delimiters make an empty one. -/
theorem resolve_append_separators_calculator :
    calculator.Reachable ∧ isQuote '/' = false ∧ Even ("c/'sub'".toList.countP isQuote) ∧
    calculator.resolve .allowAll .privateText ['/'] .root
      ("c/'sub'".toList ++ List.replicate 3 '/') = .matched ⟨2⟩ [] := by
  have plain : isQuote '/' = false := by decide
  have paired : Even ("c/'sub'".toList.countP isQuote) := by decide
  refine ⟨calculator_reachable, plain, paired, ?_⟩
  rw [resolve_append_separators calculator_reachable _ _ plain _ paired]
  decide +kernel

end CommandTree

end Switchboard
