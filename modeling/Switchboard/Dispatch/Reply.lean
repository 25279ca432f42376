import Switchboard.Argument.Coercion
import Switchboard.Message

/-!
# Replies of handlers

A handler replies with one text, with several, with nothing, or with a failure. Whatever it
replies becomes a list of responses or an error of the dispatch.
-/

namespace Switchboard

/-- What a handler gives back. -/
inductive Reply where
  | nothing
  | text (content : String)
  | texts (contents : List String)
  | failure (message : String)
  deriving DecidableEq, Repr

/-- The reasons for which a dispatch fails. -/
inductive DispatchError where
  | coercion (error : CoercionError)
  | handler (message : String)
  deriving DecidableEq, Repr

namespace DispatchError

/-- The wording of an error. -/
def message : DispatchError → String
  | coercion error => error.message
  | handler message => "handler failed: " ++ message

end DispatchError

namespace Reply

/-- The responses of a reply, one for each text. -/
def responses : Reply → Except DispatchError (List Response)
  | nothing => .ok []
  | text content => .ok [⟨content⟩]
  | texts contents => .ok (contents.map Response.mk)
  | failure message => .error (.handler message)

end Reply

end Switchboard
