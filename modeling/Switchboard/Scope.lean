import Switchboard.Channel

/-!
# Scopes

A scope limits the kinds of channel in which a handler may run. The default way of checking a
scope is membership, but a dispatcher accepts any other check in its place.
-/

namespace Switchboard

/-- The kinds of channel in which a handler may run. -/
inductive CommandScope where
  | unrestricted
  | only (kinds : List ChannelKind)
  deriving DecidableEq, Repr

namespace CommandScope

/-- A list of kinds with one more kind at its end, unless the kind is already in the list. -/
def addKind (kinds : List ChannelKind) (kind : ChannelKind) : List ChannelKind :=
  if kind ∈ kinds then kinds else kinds ++ [kind]

/-- The scope of the distinct kinds of a list, in the order in which they are first seen. -/
def ofKinds (kinds : List ChannelKind) : CommandScope :=
  only (kinds.foldl addKind [])

/-- The scope of both kinds of group channel. -/
def groupOnly : CommandScope :=
  ofKinds [.groupPrivateText, .groupPublicText]

/-- The scope of private channels. -/
def privateOnly : CommandScope :=
  ofKinds [.privateText]

/-- Whether a scope admits a kind of channel. -/
def admits : CommandScope → ChannelKind → Bool
  | unrestricted, _ => true
  | only kinds, kind => kinds.contains kind

/-- The kinds of channel that a scope offers to a user. -/
def availableKinds : CommandScope → List ChannelKind
  | unrestricted => ChannelKind.restrictable
  | only kinds => kinds

/-- Whether a scope sets no limit. -/
def isUnrestricted : CommandScope → Bool
  | unrestricted => true
  | only _ => false

/-- The rejection of a handler in a kind of channel. It lists the kinds that the scope offers,
never the current one. -/
def rejection (scope : CommandScope) (current : ChannelKind) : String :=
  let offered := (scope.availableKinds.filter (· != current)).map ChannelKind.key
  "Command not allowed to use under this channel type: " ++ current.key ++ "\n" ++
    "Please use the command under either one of these channel types: " ++
    " / ".intercalate offered

end CommandScope

/-- A way of deciding whether a scope lets a handler run in a kind of channel. -/
abbrev ScopeCheck := CommandScope → ChannelKind → Bool

namespace ScopeCheck

/-- The check that a scope admits the kind of channel. -/
def membership : ScopeCheck :=
  CommandScope.admits

/-- The check that always passes. -/
def allowAll : ScopeCheck :=
  fun _ _ => true

/-- The check that never passes. -/
def denyAll : ScopeCheck :=
  fun _ _ => false

end ScopeCheck

end Switchboard
