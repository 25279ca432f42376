import Switchboard.Argument.Value
import Switchboard.Document.Basic
import Switchboard.Message
import Switchboard.Scope

/-!
# Reading documents

A document is read strictly: a text is not a number, and a float is not an integer. A record is
read from a table by the names of its fields, or from an array by their order. Keys that no field
has are ignored. A choice among names is a text, or a table with one of the names as its only key.
-/

namespace Switchboard

namespace Document

/-- The text of a document that is a text. -/
def text? : Document → Option String
  | text value => some value
  | _ => none

/-- The truth value of a document that is one. -/
def boolean? : Document → Option Bool
  | boolean value => some value
  | _ => none

/-- The number of a document that is an integer within bounds. -/
def integerWithin? (least greatest : Int) : Document → Option Int
  | integer value => if least ≤ value ∧ value ≤ greatest then some value else none
  | _ => none

/-- The number of a document that is an integer from zero to the greatest count. -/
def count? (document : Document) : Option Nat :=
  (document.integerWithin? 0 greatestNatural).map Int.toNat

/-- The integer of 64 bits that a document is. -/
def integer? (document : Document) : Option Int64 :=
  (document.integerWithin? (-leastMagnitude) greatestInteger).map Int64.ofInt

/-- The number of a document that is a float or an integer. -/
def float? : Document → Option Float
  | float value => some value
  | integer value => some (Float.ofInt value)
  | _ => none

/-- The items of an array, each read by a function. -/
def listOf? {α : Type} (item? : Document → Option α) : Document → Option (List α)
  | array items => items.mapM item?
  | _ => none

/-- The name that a document chooses, if it is one of the known names and carries nothing. -/
def choice? (names : List String) : Document → Option String
  | text name => if name ∈ names then some name else none
  | table [(name, null)] => if name ∈ names then some name else none
  | _ => none

/-- The fields of a record with the given names. In an array they stand in order; whether the
array may be longer than the list of names depends on where the document comes from. -/
def fields? (surplus : Bool) (names : List String) : Document → Option Entries
  | table entries => some (entries.filter fun (key, _) => key ∈ names)
  | array items =>
    if surplus || items.length ≤ names.length then some (names.zip items) else none
  | _ => none

end Document

namespace Entries

/-- The value of a field that has to be present. -/
def required? {α : Type} (fields : Entries) (name : String) (read? : Document → Option α) :
    Option α :=
  (fields.lookup name).bind read?

/-- The value of a field, or a default if the field is absent. -/
def optional? {α : Type} (fields : Entries) (name : String) (absent : α)
    (read? : Document → Option α) : Option α :=
  match fields.lookup name with
  | none => some absent
  | some document => read? document

end Entries

namespace ChannelKind

/-- The kind of channel that a document names. -/
def ofDocument? (document : Document) : Option ChannelKind :=
  (document.choice? (all.map key)).bind ofKey?

end ChannelKind

namespace ParameterKind

/-- The kind of parameter that a document names. -/
def ofDocument? (document : Document) : Option ParameterKind :=
  (document.choice? (all.map name)).bind ofName?

end ParameterKind

namespace Parameter

/-- The parameter that a document describes. -/
def ofDocument? (document : Document) : Option Parameter := do
  let fields ← document.fields? false ["name", "kind"]
  return {
    name := ← fields.required? "name" Document.text?
    kind := ← fields.required? "kind" ParameterKind.ofDocument? }

end Parameter

namespace Value

/-- The value of a kind that a document is. Identifiers are taken as they are. -/
def ofContent? : ParameterKind → Document → Option Value
  | .integer, document => document.integer?.map integer
  | .float, document => document.float?.map float
  | .text, document => document.text?.map text
  | .identifier, document => document.text?.map identifier

/-- The value that a document describes by its kind and its content. -/
def ofDocument? (document : Document) : Option Value := do
  let fields ← document.fields? false ["kind", "value"]
  let kind ← fields.required? "kind" ParameterKind.ofDocument?
  fields.required? "value" (ofContent? kind)

end Value

namespace TextEvent

/-- The message that a document describes. -/
def ofDocument? (document : Document) : Option TextEvent := do
  let fields ← document.fields? false ["content", "channel_kind", "channel_id", "user_id"]
  return {
    content := ← fields.required? "content" Document.text?
    channelKind := ← fields.required? "channel_kind" ChannelKind.ofDocument?
    channelId := ← fields.required? "channel_id" Document.text?
    userId := ← fields.required? "user_id" Document.text? }

end TextEvent

namespace Response

/-- The response that a document describes. -/
def ofDocument? (document : Document) : Option Response := do
  let fields ← document.fields? false ["content"]
  return ⟨← fields.required? "content" Document.text?⟩

end Response

namespace CommandScope

/-- The scope that a document describes. Unlike the scope of a list of kinds, it keeps kinds that
are listed twice. -/
def ofDocument? : Document → Option CommandScope
  | .text name => if name = "unrestricted" then some unrestricted else none
  | .table [(name, content)] =>
    if name = "only" then
      (content.listOf? ChannelKind.ofDocument?).map only
    else if name = "unrestricted" then
      match content with
      | .null => some unrestricted
      | _ => none
    else
      none
  | _ => none

/-- The document of a scope. -/
def toDocument : CommandScope → Document
  | unrestricted => .text "unrestricted"
  | only kinds => .table [("only", .array (kinds.map fun kind => .text kind.key))]

end CommandScope

end Switchboard
