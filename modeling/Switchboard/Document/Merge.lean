import Switchboard.Document.Basic

/-!
# Merging documents

Tables merge key by key, at every depth. Anything else, arrays included, is replaced by what is
merged into it.
-/

namespace Switchboard

mutual

/-- A document with another one merged into it. -/
def Document.merge (old new : Document) : Document :=
  match new with
  | .table additions =>
    match old with
    | .table entries => .table (Entries.mergeAll entries additions)
    | _ => .table additions
  | other => other
termination_by structural new

/-- Entries with other ones merged into them, one after the other. -/
def Entries.mergeAll (entries : List (String × Document)) (additions : List (String × Document)) :
    List (String × Document) :=
  match additions with
  | [] => entries
  | addition :: rest => Entries.mergeAll (Entries.mergeOne entries addition) rest
termination_by structural additions

/-- Entries with one more merged into them. -/
def Entries.mergeOne (entries : List (String × Document)) (addition : String × Document) :
    List (String × Document) :=
  match addition with
  | (key, value) =>
    match entries.lookup key with
    | some existing => Entries.insert key (existing.merge value) entries
    | none => Entries.insert key value entries
termination_by structural addition

end

namespace Document

/-- A document with others merged into it in order. -/
def mergeList (base : Document) (layers : List Document) : Document :=
  layers.foldl merge base

end Document

end Switchboard
