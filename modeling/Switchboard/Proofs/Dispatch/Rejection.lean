import Switchboard.Proofs.Dispatch.Effects
import Switchboard.Proofs.Tree.Selection

/-!
# Rejections

A handler that is refused gives one line for the kind of channel that it is refused in and one that
enumerates other kinds. What a text enumerates is read off its words, so that nothing depends on how
the text is put together. A scope made from a list of kinds offers each kind of the list once, in the
order in which they are first seen; where membership refuses it, leaving out the current kind leaves
out nothing.
-/

namespace Switchboard

/-- The kinds of a list, each once, in the order in which they are first seen. -/
structure FirstSeen (kinds distinct : List ChannelKind) : Prop where
  once : distinct.Nodup
  same_kinds : ∀ kind, kind ∈ distinct ↔ kind ∈ kinds
  in_order : distinct.Pairwise fun earlier later => kinds.idxOf earlier < kinds.idxOf later

namespace FirstSeen

variable {kinds distinct : List ChannelKind}

theorem addKind (firstSeen : FirstSeen kinds distinct) (kind : ChannelKind) :
    FirstSeen (kinds ++ [kind]) (CommandScope.addKind distinct kind) := by
  rcases firstSeen with ⟨once, sameKinds, inOrder⟩
  have orderKept : distinct.Pairwise fun earlier later =>
      (kinds ++ [kind]).idxOf earlier < (kinds ++ [kind]).idxOf later := by
    refine inOrder.imp_of_mem ?_
    intro earlier later earlierMem laterMem before
    rwa [List.idxOf_append_of_mem ((sameKinds earlier).mp earlierMem),
      List.idxOf_append_of_mem ((sameKinds later).mp laterMem)]
  rw [CommandScope.addKind]
  split
  · rename_i known
    refine ⟨once, ?_, orderKept⟩
    intro other
    rw [sameKinds, List.mem_append, List.mem_singleton]
    constructor
    · exact Or.inl
    · rintro (old | rfl)
      · exact old
      · exact (sameKinds _).mp known
  · rename_i new
    have unseen : kind ∉ kinds := fun seen => new ((sameKinds kind).mpr seen)
    refine ⟨?_, ?_, ?_⟩
    · refine List.nodup_append.mpr ⟨once, List.nodup_singleton kind, ?_⟩
      intro other otherMem added addedMem same
      rw [same, List.mem_singleton.mp addedMem] at otherMem
      exact new otherMem
    · intro other
      simp [sameKinds]
    · refine List.pairwise_append.mpr ⟨orderKept, List.pairwise_singleton _ _, ?_⟩
      intro earlier earlierMem later laterMem
      have seen := (sameKinds earlier).mp earlierMem
      rw [List.mem_singleton.mp laterMem, List.idxOf_append_of_mem seen,
        List.idxOf_append_of_notMem unseen]
      exact Nat.lt_add_right _ (List.idxOf_lt_length_of_mem seen)

/-- Adding the kinds of a list one by one keeps the first of each. -/
theorem foldl_addKind (firstSeen : FirstSeen kinds distinct) (more : List ChannelKind) :
    FirstSeen (kinds ++ more) (more.foldl CommandScope.addKind distinct) := by
  induction more generalizing kinds distinct with
  | nil => rwa [List.append_nil]
  | cons kind rest ih =>
    rw [List.append_cons]
    exact ih (firstSeen.addKind kind)

end FirstSeen

namespace CommandScope

theorem firstSeen_ofKinds (kinds : List ChannelKind) :
    FirstSeen kinds (ofKinds kinds).availableKinds := by
  have nothing : FirstSeen [] [] := ⟨.nil, by simp, .nil⟩
  exact nothing.foldl_addKind kinds

theorem admits_ofKinds_iff {kinds : List ChannelKind} {kind : ChannelKind} :
    (ofKinds kinds).admits kind = true ↔ kind ∈ kinds := by
  rw [← (firstSeen_ofKinds kinds).same_kinds]
  exact List.contains_iff_mem

end CommandScope

/-- The kinds that the words of a text name, in order. -/
def kindsNamed (text : List Char) : List ChannelKind :=
  (text.splitOn ' ').filterMap fun word => ChannelKind.ofKey? (String.ofList word)

/-- The kinds that a rejection enumerates, which it names after its first line. -/
def kindsEnumerated (rejection : String) : List ChannelKind :=
  kindsNamed (rejection.toList.dropWhile (· != '\n'))

theorem kindsNamed_append_blank (front back : List Char) :
    kindsNamed (front ++ ' ' :: back) = kindsNamed front ++ kindsNamed back := by
  rw [kindsNamed, List.splitOn_append_cons_self, List.filterMap_append]
  rfl

/-- A text that ends with a blank and what follows it have no word in common. -/
theorem kindsNamed_append {front : List Char} (ends : front.getLast? = some ' ')
    (back : List Char) : kindsNamed (front ++ back) = kindsNamed front ++ kindsNamed back := by
  have nothing : kindsNamed [] = [] := by decide
  rcases List.getLast?_eq_some_iff.mp ends with ⟨words, rfl⟩
  rw [List.append_assoc, List.singleton_append, kindsNamed_append_blank,
    kindsNamed_append_blank words [], nothing, List.append_nil]

theorem kindsNamed_key (kind : ChannelKind) : kindsNamed kind.key.toList = [kind] := by
  cases kind <;> decide

/-- Keys with strokes between them name the kinds that they are the keys of. -/
theorem kindsNamed_intercalate (kinds : List ChannelKind) :
    kindsNamed (" / ".intercalate (kinds.map ChannelKind.key)).toList = kinds := by
  induction kinds with
  | nil => decide
  | cons kind rest ih =>
    cases rest with
    | nil => simpa using kindsNamed_key kind
    | cons next others =>
      have splitEq : (" / ".intercalate ((kind :: next :: others).map ChannelKind.key)).toList =
          kind.key.toList ++ ' ' :: (['/'] ++ ' ' ::
            (" / ".intercalate ((next :: others).map ChannelKind.key)).toList) := by
        simp
      have stroke : kindsNamed ['/'] = [] := by decide
      rw [splitEq, kindsNamed_append_blank, kindsNamed_append_blank, kindsNamed_key, stroke, ih]
      rfl

namespace CommandScope

theorem toList_rejection (scope : CommandScope) (current : ChannelKind) :
    (scope.rejection current).toList =
      "Command not allowed to use under this channel type: ".toList ++ current.key.toList ++
        "\n".toList ++
        "Please use the command under either one of these channel types: ".toList ++
        (" / ".intercalate
          ((scope.availableKinds.filter (· != current)).map ChannelKind.key)).toList := by
  unfold rejection
  dsimp only
  simp only [String.toList_append]

/-- A rejection enumerates what the scope offers without the current kind. -/
theorem kindsEnumerated_rejection (scope : CommandScope) (current : ChannelKind) :
    kindsEnumerated (scope.rejection current) =
      scope.availableKinds.filter (· != current) := by
  have plainText : "Command not allowed to use under this channel type: ".toList.all
      (· != '\n') = true := by
    decide
  have plainKey : current.key.toList.all (· != '\n') = true := by
    cases current <;> decide
  have firstLine : ∀ letter ∈
      "Command not allowed to use under this channel type: ".toList ++ current.key.toList,
      (letter != '\n') = true := by
    intro letter letterMem
    rcases List.mem_append.mp letterMem with inText | inKey
    · exact List.all_eq_true.mp plainText letter inText
    · exact List.all_eq_true.mp plainKey letter inKey
  have lineEnd : "\n".toList = ['\n'] := rfl
  have ends : ('\n' ::
      "Please use the command under either one of these channel types: ".toList).getLast? =
        some ' ' := by
    decide
  have noKind : kindsNamed ('\n' ::
      "Please use the command under either one of these channel types: ".toList) = [] := by
    decide +kernel
  rw [kindsEnumerated, toList_rejection, lineEnd]
  simp only [List.append_assoc, List.cons_append, List.nil_append]
  rw [← List.append_assoc, List.dropWhile_append_of_pos firstLine,
    List.dropWhile_cons_of_neg (by decide), ← List.cons_append, kindsNamed_append ends, noKind,
    kindsNamed_intercalate]
  rfl

end CommandScope

/-- A text is refused by the scope of the handler that answers it. -/
theorem CommandTree.WellFormed.refusal_of_resolve {Action : Type} {tree : CommandTree Action}
    (wellFormed : tree.WellFormed) {check : ScopeCheck} {channelKind : ChannelKind}
    {delimiter text : List Char}
    {id node : NodeId} {arity : Nat} {response : Response}
    (refused : tree.resolve check channelKind delimiter id text =
      .outOfScope node arity response) :
    ∃ handler, tree.handler? node arity = some handler ∧
      check handler.scope channelKind = false ∧
      response = ⟨handler.scope.rejection channelKind⟩ := by
  rcases wellFormed.resolve_cases delimiter id text with
    nobody | ⟨last, _, handler, tokens, _, handlerEq, answers⟩
  · rw [nobody] at refused
    cases refused
  · rw [answers] at refused
    split at refused
    · cases refused
    · rename_i forbidden
      cases refused
      exact ⟨handler, handlerEq, Bool.not_eq_true _ ▸ forbidden, rfl⟩

namespace Dispatcher

variable {Action : Type}

/-- A dispatch that is refused sends back one rejection, which enumerates what the scope of the
handler offers without the kind of the channel. If the scope was made from a list of kinds and
membership is what is checked, the kind of the channel is not in the list, and the rejection
enumerates the kinds of the list, each once, in the order in which they are first seen. -/
theorem rejection_enumerates {dispatcher : Dispatcher Action}
    (reachable : dispatcher.tree.Reachable) {event : TextEvent} {node : NodeId} {arity : Nat}
    {response : Response}
    (refused : dispatcher.resolve event = .outOfScope node arity response) :
    ∃ handler, dispatcher.tree.handler? node arity = some handler ∧
      dispatcher.check handler.scope event.channelKind = false ∧
      dispatcher.handle event = ⟨[], none, .ok [response]⟩ ∧
      kindsEnumerated response.content =
        handler.scope.availableKinds.filter (· != event.channelKind) ∧
      ∀ kinds, handler.scope = .ofKinds kinds → dispatcher.check = .membership →
        event.channelKind ∉ kinds ∧ FirstSeen kinds (kindsEnumerated response.content) := by
  have found := refused
  rw [resolve] at found
  split at found
  · cases found
  · rcases reachable.wellFormed.refusal_of_resolve found with ⟨handler, handlerEq, forbidden, rfl⟩
    refine ⟨handler, handlerEq, forbidden, by simp [handle, refused],
      handler.scope.kindsEnumerated_rejection event.channelKind, ?_⟩
    intro kinds scopeEq checkEq
    have outside : event.channelKind ∉ kinds := by
      rw [scopeEq, checkEq] at forbidden
      rw [← CommandScope.admits_ofKinds_iff, Bool.not_eq_true]
      exact forbidden
    have firstSeen := CommandScope.firstSeen_ofKinds kinds
    refine ⟨outside, ?_⟩
    rw [CommandScope.kindsEnumerated_rejection, scopeEq, List.filter_eq_self.mpr]
    · exact firstSeen
    · intro kind offered
      rw [bne_iff_ne]
      rintro rfl
      exact outside ((firstSeen.same_kinds _).mp offered)

/-- Two commands, one with a scope made from a list that repeats a kind, and one with a scope that
repeats a kind itself. -/
def scopedCommands (check : ScopeCheck) : Dispatcher Unit where
  tree := CommandTree.calculatorRoot.build
    [.addChild .root { codes := ["made"] },
      .register ⟨1⟩ { scope := .ofKinds [.groupPublicText, .privateText, .groupPublicText] } (),
      .addChild .root { codes := ["read"] },
      .register ⟨2⟩ { scope := .only [.privateText, .groupPublicText, .privateText] } ()]
  check := check
  coercion := .verbatim
  perform := fun _ _ _ => .nothing

/-- Membership refuses the first command in a private group. A check that refuses everything refuses
the second one in a public group. -/
theorem rejection_enumerates_scopedCommands :
    (∀ check, (scopedCommands check).tree.Reachable) ∧
    (∃ response,
      (scopedCommands .membership).resolve ⟨"!/made", .groupPrivateText, "channel", "user"⟩ =
          .outOfScope ⟨1⟩ 0 response ∧
        FirstSeen [.groupPublicText, .privateText, .groupPublicText]
          (kindsEnumerated response.content)) ∧
    ∃ response,
      (scopedCommands .denyAll).resolve ⟨"!/read", .groupPublicText, "channel", "user"⟩ =
          .outOfScope ⟨2⟩ 0 response ∧
        kindsEnumerated response.content = [.privateText, .privateText] := by
  have made : (scopedCommands .membership).resolve
      ⟨"!/made", .groupPrivateText, "channel", "user"⟩ =
        .outOfScope ⟨1⟩ 0 ⟨(CommandScope.ofKinds [.groupPublicText, .privateText,
          .groupPublicText]).rejection .groupPrivateText⟩ := by
    decide +kernel
  have read : (scopedCommands .denyAll).resolve
      ⟨"!/read", .groupPublicText, "channel", "user"⟩ =
        .outOfScope ⟨2⟩ 0 ⟨(CommandScope.only [.privateText, .groupPublicText,
          .privateText]).rejection .groupPublicText⟩ := by
    decide +kernel
  have reachable (check : ScopeCheck) : (scopedCommands check).tree.Reachable :=
    (CommandTree.Reachable.ofRoot CommandTree.calculatorRoot_created).build _
  refine ⟨reachable, ?_, ?_⟩
  · rcases rejection_enumerates (reachable _) made with ⟨handler, handlerEq, _, _, _, enumerated⟩
    cases handlerEq
    exact ⟨_, made, (enumerated _ rfl rfl).2⟩
  · rcases rejection_enumerates (reachable _) read with ⟨handler, handlerEq, _, _, enumerated, _⟩
    cases handlerEq
    exact ⟨_, read, enumerated⟩

end Dispatcher

end Switchboard
