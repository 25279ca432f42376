import Switchboard.Document.Basic

/-!
# Tables under construction

The lines of a TOML document fill tables step by step. A table remembers how it came about, since
a table may be opened only once, and a dotted key may not reach into a table that a header opened.
-/

namespace Switchboard.Toml

/-- A part of a document under construction. -/
inductive Item where
  /-- A finished value. -/
  | leaf (value : Document)
  /-- A table. It is implicit until a header opens it, and dotted if a dotted key made it. -/
  | table (implicit dotted : Bool) (entries : List (String × Item))
  /-- A table array, the last table being open. -/
  | series (tables : List (List (String × Item)))

/-- The entries of a table under construction. -/
abbrev Items := List (String × Item)

namespace Items

/-- Entries in which a key has an item. -/
def insert (key : String) (item : Item) : Items → Items
  | [] => [(key, item)]
  | (other, existing) :: rest =>
    if other = key then (key, item) :: rest else (other, existing) :: insert key item rest

/-- Applies a change to the table at a path. The change is told whether that table is dotted.
Tables that are missing on the way come into being. -/
def modifyAt (byDottedKey : Bool) (change : Bool → Items → Option Items) :
    List String → Bool → Items → Option Items
  | [], dotted, entries => change dotted entries
  | key :: rest, _, entries =>
    match entries.lookup key with
    | none => do
      let made ← modifyAt byDottedKey change rest byDottedKey []
      return insert key (.table true byDottedKey made) entries
    | some (.leaf _) => none
    | some (.series tables) =>
      match tables.getLast? with
      | none => none
      | some last => do
        let changed ← modifyAt byDottedKey change rest false last
        return insert key (.series (tables.dropLast ++ [changed])) entries
    | some (.table implicit dotted inner) =>
      if byDottedKey && !implicit then
        none
      else do
        let changed ← modifyAt byDottedKey change rest dotted inner
        return insert key (.table implicit dotted changed) entries

/-- Puts a value under a key that is not taken. -/
def addLeaf (byDottedKey : Bool) (key : String) (value : Document) (dotted : Bool)
    (entries : Items) : Option Items :=
  if dotted != byDottedKey || (entries.lookup key).isSome then
    none
  else
    some (insert key (.leaf value) entries)

/-- Puts a value at a dotted key below a table. -/
def addAt (path : List String) (key : String) (value : Document) (dotted : Bool)
    (entries : Items) : Option Items :=
  modifyAt true (addLeaf (!path.isEmpty) key value) path dotted entries

/-- Opens the table of a header. It may have been made on the way to another header before. -/
def openTable (key : String) (entries : Items) : Option Items :=
  match entries.lookup key with
  | none => some (insert key (.table false false []) entries)
  | some (.table true false inner) => some (insert key (.table false false inner) entries)
  | some _ => none

/-- Opens a new table at the end of a table array. -/
def openSeries (key : String) (entries : Items) : Option Items :=
  match entries.lookup key with
  | none => some (insert key (.series [[]]) entries)
  | some (.series tables) => some (insert key (.series (tables ++ [[]])) entries)
  | some _ => none

end Items

mutual

/-- The document of a finished item. -/
def Item.toDocument : Item → Document
  | .leaf value => value
  | .table _ _ entries => .table (Item.entriesToDocument entries)
  | .series tables => .array (Item.seriesToDocument tables)

/-- The documents of finished entries. -/
def Item.entriesToDocument : List (String × Item) → List (String × Document)
  | [] => []
  | (key, item) :: rest => (key, item.toDocument) :: Item.entriesToDocument rest

/-- The documents of finished tables. -/
def Item.seriesToDocument : List (List (String × Item)) → List Document
  | [] => []
  | entries :: rest => .table (Item.entriesToDocument entries) :: Item.seriesToDocument rest

end

end Switchboard.Toml
