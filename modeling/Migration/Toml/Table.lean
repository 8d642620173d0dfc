import Migration.Toml.Value

/-!
# Building TOML tables

Keys and headers name a place by the path to it. On the way there, tables that do not exist yet come
into being, an array of tables stands for its last table, and anything else is in the way. No name
is given a value twice.
-/

namespace Migration.Toml

/-- The entries of a table, in the order in which they were made. -/
abbrev Entries := List (String × Value)

/-- A table that is being built. -/
structure Table where
  kind : TableKind
  entries : Entries

namespace Table

/-- The table as a value. -/
def toValue (table : Table) : Value := .table table.kind table.entries

/-- The value of a key. -/
def get? (table : Table) (key : String) : Option Value := table.entries.lookup key

/-- The table with the value of a key set, in its place if it has one. -/
def set (table : Table) (key : String) (value : Value) : Table :=
  if (table.get? key).isSome then
    { table with entries := table.entries.map fun entry =>
        if entry.1 = key then (key, value) else entry }
  else { table with entries := table.entries ++ [(key, value)] }

/-- Whether the dots of a key may lead into a table of this kind. -/
def admitsDots : TableKind → Bool
  | .implied => true
  | .dotted => true
  | _ => false

/-- The table with `change` applied to the table at the end of a path. Tables made on the way are of
    the kind `how`, which says whether the path is part of a header or of a key. -/
def alter (how : TableKind) (change : Table → Option Table) : List String → Table → Option Table
  | [], table => change table
  | key :: path, table =>
    match table.get? key with
    | none => do
      let inner ← alter how change path ⟨how, []⟩
      return table.set key inner.toValue
    | some (.table kind entries) =>
      if kind = .inline || (how = .dotted && !admitsDots kind) then none
      else do
        let inner ← alter how change path ⟨kind, entries⟩
        return table.set key inner.toValue
    | some (.array true items) =>
      match items.getLast? with
      | some (.table kind entries) => do
        let inner ← alter how change path ⟨kind, entries⟩
        return table.set key (.array true (items.dropLast ++ [inner.toValue]))
      | _ => none
    | some _ => none

/-- The table with a new entry, unless it has one of that key. -/
def add? (key : String) (value : Value) (table : Table) : Option Table :=
  if (table.get? key).isSome then none
  else some { table with entries := table.entries ++ [(key, value)] }

/-- The table with a value at a path of keys. Keys with dots only go into tables that dots made. -/
def insert? (path : List String) (value : Value) (table : Table) : Option Table :=
  match path.getLast? with
  | none => none
  | some key =>
    let way := path.dropLast
    alter .dotted
      (fun inner => if !way.isEmpty && inner.kind != .dotted then none else inner.add? key value)
      way table

/-- The table with the table of a header opened: a new one, or one that was only implied. -/
def openTable? (path : List String) (table : Table) : Option Table :=
  match path.getLast? with
  | none => none
  | some key =>
    alter .implied
      (fun parent =>
        match parent.get? key with
        | none => some (parent.set key (.table .header []))
        | some (.table .implied entries) => some (parent.set key (.table .header entries))
        | some _ => none)
      path.dropLast table

/-- The table with a new table at the end of the array of a header in double brackets. -/
def openItem? (path : List String) (table : Table) : Option Table :=
  match path.getLast? with
  | none => none
  | some key =>
    alter .implied
      (fun parent =>
        match parent.get? key with
        | none => some (parent.set key (.array true [.table .header []]))
        | some (.array true items) =>
          some (parent.set key (.array true (items ++ [.table .header []])))
        | some _ => none)
      path.dropLast table

/-- The table with a value at a path of keys below a header. -/
def insertBelow? (header path : List String) (value : Value) (table : Table) : Option Table :=
  alter .implied (insert? path value) header table

end Table

end Migration.Toml
