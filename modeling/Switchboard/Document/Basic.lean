/-!
# Documents

Structured data without a schema: what a configuration file, an environment variable or a message
from outside holds before it is read as a value of the library. The keys of a table are distinct.
-/

namespace Switchboard

/-- Structured data. -/
inductive Document where
  | null
  | boolean (value : Bool)
  | integer (value : Int)
  | float (value : Float)
  | text (value : String)
  | array (items : List Document)
  | table (entries : List (String × Document))

/-- The entries of a table in the order of writing. -/
abbrev Entries := List (String × Document)

namespace Entries

/-- Entries in which a key has a value. An entry of the same key is overwritten. -/
def insert (key : String) (value : Document) : Entries → Entries
  | [] => [(key, value)]
  | (other, existing) :: rest =>
    if other = key then (key, value) :: rest else (other, existing) :: insert key value rest

end Entries

end Switchboard
