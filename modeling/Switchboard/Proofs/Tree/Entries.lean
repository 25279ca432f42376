import Mathlib.Data.List.Basic
import Switchboard.Proofs.Lookup
import Switchboard.Tree.Assembly

/-!
# Entries of a node

A node keeps its children by code and its handlers by ascending arity. Both lists of entries are
used as finite maps: what is put under a key is found under it and changes no other key.
-/

namespace Switchboard

namespace CommandNode

variable {Action : Type}

theorem lookup_assign (key other : String) (child : NodeId) (entries : List (String × NodeId)) :
    (assign key child entries).lookup other =
      if other = key then some child else entries.lookup other := by
  induction entries with
  | nil => simp [assign, lookup_cons_entry]
  | cons entry rest ih =>
    rcases entry with ⟨head, id⟩
    by_cases found : head = key
    · by_cases same : other = key <;> simp [assign, lookup_cons_entry, found, same]
    · by_cases same : other = head
      · simp [assign, found, same]
      · simp [assign, lookup_cons_entry, found, same, ih]

theorem mem_assign {key : String} {child : NodeId} {entry : String × NodeId}
    {entries : List (String × NodeId)} (entryMem : entry ∈ assign key child entries) :
    entry = (key, child) ∨ entry ∈ entries := by
  induction entries with
  | nil => simpa [assign] using entryMem
  | cons head rest ih =>
    rw [assign] at entryMem
    split at entryMem
    · rcases List.mem_cons.mp entryMem with new | old
      · exact Or.inl new
      · exact Or.inr (List.mem_cons_of_mem _ old)
    · rcases List.mem_cons.mp entryMem with first | later
      · exact Or.inr (by simp [first])
      · rcases ih later with new | old
        · exact Or.inl new
        · exact Or.inr (List.mem_cons_of_mem _ old)

/-- A key that leads to the child already needs no new entry. -/
theorem assign_of_lookup {key : String} {child : NodeId} {entries : List (String × NodeId)}
    (held : entries.lookup key = some child) : assign key child entries = entries := by
  induction entries with
  | nil => simp at held
  | cons entry rest ih =>
    rcases entry with ⟨head, id⟩
    by_cases found : head = key
    · have same : id = child := by simpa [lookup_cons_entry, found] using held
      simp [assign, found, same]
    · have later : rest.lookup key = some child := by
        simpa [lookup_cons_entry, Ne.symm found] using held
      simp [assign, found, ih later]

theorem lookup_assignAll (parent child : NodeId) (entries : List (String × NodeId))
    (keys : List String) (other : String) :
    (assignAll parent child entries keys).1.lookup other =
      if other ∈ keys then some child else entries.lookup other := by
  induction keys generalizing entries with
  | nil => simp [assignAll]
  | cons key rest ih =>
    simp only [assignAll, ih, lookup_assign, List.mem_cons]
    by_cases later : other ∈ rest <;> by_cases now : other = key <;> simp [later, now]

theorem mem_assignAll {parent child : NodeId} {entry : String × NodeId}
    {entries : List (String × NodeId)} {keys : List String}
    (entryMem : entry ∈ (assignAll parent child entries keys).1) :
    entry.1 ∈ keys ∧ entry.2 = child ∨ entry ∈ entries := by
  induction keys generalizing entries with
  | nil => exact Or.inr (by simpa [assignAll] using entryMem)
  | cons key rest ih =>
    rcases ih (by simpa [assignAll] using entryMem) with ⟨keyMem, leads⟩ | old
    · exact Or.inl ⟨List.mem_cons_of_mem _ keyMem, leads⟩
    · rcases mem_assign old with new | older
      · exact Or.inl (by simp [new])
      · exact Or.inr older

/-- The warning about a key that is taken away from a child. -/
def replacement? (parent child : NodeId) (entries : List (String × NodeId)) (key : String) :
    Option TreeWarning :=
  (entries.lookup key).bind fun previous =>
    if previous = child then none else some (.codeReplaced key parent previous child)

theorem assignAll_cons (parent child : NodeId) (entries : List (String × NodeId)) (key : String)
    (rest : List String) :
    (assignAll parent child entries (key :: rest)).2 =
      (replacement? parent child entries key).toList ++
        (assignAll parent child (assign key child entries) rest).2 := by
  simp only [assignAll, replacement?]
  cases entries.lookup key with
  | none => simp
  | some previous => by_cases same : previous = child <;> simp [same]

/-- A key that leads to the child already is as good as absent. -/
theorem assignAll_filter {parent child : NodeId} {entries : List (String × NodeId)} {key : String}
    (held : entries.lookup key = some child) (keys : List String) :
    (assignAll parent child entries keys).2 =
      (assignAll parent child entries (keys.filter fun other => !other == key)).2 := by
  induction keys generalizing entries with
  | nil => rfl
  | cons other rest ih =>
    by_cases same : other = key
    · have noneNew : replacement? parent child entries key = none := by
        simp [replacement?, held]
      simp [same, assignAll_cons, noneNew, assign_of_lookup held, ih held]
    · have still : (assign other child entries).lookup key = some child := by
        rw [lookup_assign]
        simp [held]
      simp [same, assignAll_cons, ih still]

/-- Each distinct key that another child holds is warned about once. -/
theorem assignAll_warnings (parent child : NodeId) (entries : List (String × NodeId))
    (keys : List String) :
    (assignAll parent child entries keys).2 =
      keys.eraseDups.filterMap (replacement? parent child entries) := by
  -- The tail is looked at without further copies of the head, so the induction is on the length.
  induction lengthEq : keys.length using Nat.strongRecOn generalizing keys entries with
  | _ length ih =>
    cases keys with
    | nil => rfl
    | cons key rest =>
      have held : (assign key child entries).lookup key = some child := by simp [lookup_assign]
      have shorter : (rest.filter fun other => !other == key).length < length := by
        have := List.length_filter_le (fun other => !other == key) rest
        simp only [List.length_cons] at lengthEq
        omega
      have others : ∀ other ∈ (rest.filter fun other => !other == key).eraseDups,
          replacement? parent child (assign key child entries) other =
            replacement? parent child entries other := by
        intro other otherMem
        have different : other ≠ key := by simpa using (List.mem_filter.mp
          (List.mem_eraseDups.mp otherMem)).2
        simp [replacement?, lookup_assign, different]
      rw [assignAll_cons, assignAll_filter held, ih _ shorter _ _ rfl,
        List.filterMap_congr others, List.eraseDups_cons]
      cases h : replacement? parent child entries key <;> simp [h]

theorem lookup_placeHandler (arity other : Nat) (handler : Handler Action)
    (entries : List (Nat × Handler Action)) :
    (placeHandler arity handler entries).lookup other =
      if other = arity then some handler else entries.lookup other := by
  induction entries with
  | nil => simp [placeHandler, lookup_cons_entry]
  | cons entry rest ih =>
    rcases entry with ⟨head, present⟩
    rw [placeHandler]
    split
    · rw [lookup_cons_entry]
    · split
      · rename_i taken
        rw [lookup_cons_entry, lookup_cons_entry, ← taken]
        by_cases same : other = arity <;> simp [same]
      · rename_i notBelow notTaken
        rw [lookup_cons_entry, lookup_cons_entry, ih]
        by_cases here : other = head
        · subst head
          simp [Ne.symm notTaken]
        · rw [if_neg here, if_neg here]

theorem mem_placeHandler {arity : Nat} {handler : Handler Action} {entry : Nat × Handler Action}
    {entries : List (Nat × Handler Action)}
    (entryMem : entry ∈ placeHandler arity handler entries) :
    entry = (arity, handler) ∨ entry ∈ entries := by
  induction entries with
  | nil => simpa [placeHandler] using entryMem
  | cons head rest ih =>
    rw [placeHandler] at entryMem
    split at entryMem
    · simpa using entryMem
    · split at entryMem
      · rcases List.mem_cons.mp entryMem with new | old
        · exact Or.inl new
        · exact Or.inr (List.mem_cons_of_mem _ old)
      · rcases List.mem_cons.mp entryMem with first | later
        · exact Or.inr (by simp [first])
        · rcases ih later with new | old
          · exact Or.inl new
          · exact Or.inr (List.mem_cons_of_mem _ old)

/-- Handlers are kept in the order of their arities, no two of them under the same one. -/
def KeysAscend (entries : List (Nat × Handler Action)) : Prop :=
  entries.Pairwise fun left right => left.1 < right.1

theorem keysAscend_placeHandler (arity : Nat) (handler : Handler Action)
    {entries : List (Nat × Handler Action)} (ascend : KeysAscend entries) :
    KeysAscend (placeHandler arity handler entries) := by
  induction entries with
  | nil => simp [KeysAscend, placeHandler]
  | cons head rest ih =>
    rcases List.pairwise_cons.mp ascend with ⟨below, others⟩
    rw [placeHandler]
    split
    · rename_i first
      apply List.pairwise_cons.mpr
      refine ⟨?_, ascend⟩
      intro later laterMem
      rcases List.mem_cons.mp laterMem with rfl | laterMem
      · exact first
      · exact Nat.lt_trans first (below later laterMem)
    · split
      · rename_i taken
        apply List.pairwise_cons.mpr
        refine ⟨?_, others⟩
        intro later laterMem
        rw [taken]
        exact below later laterMem
      · rename_i notBelow notTaken
        apply List.pairwise_cons.mpr
        refine ⟨?_, ih others⟩
        intro later laterMem
        rcases mem_placeHandler laterMem with rfl | laterMem
        · exact Nat.lt_of_le_of_ne (Nat.not_lt.mp notBelow) (Ne.symm notTaken)
        · exact below later laterMem

theorem mem_handlers_of_handler? {node : CommandNode Action} {arity : Nat}
    {handler : Handler Action} (found : node.handler? arity = some handler) :
    handler ∈ node.handlers :=
  List.mem_map.mpr ⟨(arity, handler), mem_of_lookup found, rfl⟩

/-- Each entry of a handler is found. -/
theorem handler?_of_mem {node : CommandNode Action} {arity : Nat} {handler : Handler Action}
    (ascend : KeysAscend node.handlersByArity)
    (entryMem : (arity, handler) ∈ node.handlersByArity) :
    node.handler? arity = some handler := by
  have distinct : (node.handlersByArity.map Prod.fst).Nodup := by
    rw [List.Nodup, List.pairwise_map]
    exact ascend.imp Nat.ne_of_lt
  exact lookup_of_mem distinct entryMem

/-- The last entry has the highest arity. -/
theorem getLast?_eq_max? {entries : List (Nat × Handler Action)} (ascend : KeysAscend entries) :
    entries.getLast?.map Prod.fst = (entries.map Prod.fst).max? := by
  cases lastEq : entries.getLast? with
  | none => simp [List.getLast?_eq_none_iff.mp lastEq]
  | some last =>
    rcases List.getLast?_eq_some_iff.mp lastEq with ⟨before, rfl⟩
    symm
    rw [Option.map_some, List.max?_eq_some_iff]
    refine ⟨by simp, ?_⟩
    intro arity arityMem
    rcases List.mem_map.mp arityMem with ⟨entry, entryMem, rfl⟩
    rcases List.mem_append.mp entryMem with earlier | final
    · exact Nat.le_of_lt ((List.pairwise_append.mp ascend).2.2 entry earlier last (by simp))
    · simp [List.mem_singleton.mp final]

/-- Handlers stand in the order of the numbers of their parameters, no two of which are the same. -/
def Ascending (handlers : List (Handler Action)) : Prop :=
  handlers.Pairwise fun left right => left.arity < right.arity

/-- Where handlers are kept under their own arities, they stand in the order of these. -/
theorem ascending_of_keysAscend {entries : List (Nat × Handler Action)}
    (ascend : KeysAscend entries) (keyed : ∀ entry ∈ entries, entry.2.arity = entry.1) :
    Ascending (entries.map Prod.snd) := by
  apply List.pairwise_map.mpr
  refine ascend.imp_of_mem ?_
  intro left right leftMem rightMem less
  rwa [keyed left leftMem, keyed right rightMem]

end CommandNode

end Switchboard
