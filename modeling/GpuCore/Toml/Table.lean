import GpuCore.Toml.Value

/-!
# Building tables

What the lines of a document do to its table.  Every key is given a value once, a table is opened
by a header once, and what was written out as a value is complete.

Main definitions:

- `KeyPath`: a key of one or more parts.
- `Table.assign?`: a key is given a value.
- `Table.openTable?` and `Table.openElement?`: the two kinds of headers.
- `Table.changeAt?`: reach the table that a header opened.
-/

namespace GpuCore.Toml

/-- A key: tables on the way, and an entry in the last of them. -/
structure KeyPath where
  tables : List String
  last : String
deriving DecidableEq, Repr, Inhabited

/-- All parts of a key. -/
def KeyPath.parts (path : KeyPath) : List String :=
  path.tables ++ [path.last]

namespace Table

/-! ## Keys with values -/

/-- Change the last table of an array, which stands for the array in a path. -/
def changeLast? (change : Table → Option Table) (elements : List Value) : Option (List Value) :=
  match elements.getLast? with
  | some (.table origin entries) =>
    (change entries).map fun entries => elements.dropLast ++ [.table origin entries]
  | _ => none

/-- Give a key a value.  Tables on the way are made when they are missing.  One that was made
by a dotted key takes further entries; below one that a header implied only new tables can be
made. -/
def assignUnder? (path : List String) (last : String) (value : Value) (table : Table) :
    Option Table :=
  match path with
  | [] => if (get? table last).isSome then none else some (put table last value)
  | key :: path => do
    match get? table key with
    | none => return put table key (.table .dotted (← assignUnder? path last value []))
    | some (.table .dotted entries) =>
      return put table key (.table .dotted (← assignUnder? path last value entries))
    | some (.table .implied entries) =>
      if path.isEmpty then none
      else return put table key (.table .implied (← assignUnder? path last value entries))
    | some (.array .header elements) =>
      if path.isEmpty then none
      else
        return put table key
          (.array .header (← changeLast? (assignUnder? path last value) elements))
    | some _ => none

/-- Give a key a value. -/
def assign? (table : Table) (path : KeyPath) (value : Value) : Option Table :=
  assignUnder? path.tables path.last value table

/-! ## Headers -/

/-- Change the table that a path of a header names.  Tables on the way are implied when they are
missing, and an array of tables stands for its last one. -/
def changeAt? (path : List String) (change : Table → Option Table) (table : Table) :
    Option Table :=
  match path with
  | [] => change table
  | key :: path => do
    match get? table key with
    | none => return put table key (.table .implied (← changeAt? path change []))
    | some (.table .inline _) => none
    | some (.table origin entries) =>
      return put table key (.table origin (← changeAt? path change entries))
    | some (.array .header elements) =>
      return put table key (.array .header (← changeLast? (changeAt? path change) elements))
    | some _ => none

/-- Open a table, which must be new or merely implied. -/
def openTable? (table : Table) (path : KeyPath) : Option Table :=
  changeAt? path.tables
    (fun table =>
      match get? table path.last with
      | none => some (put table path.last (.table .header []))
      | some (.table .implied entries) => some (put table path.last (.table .header entries))
      | some _ => none)
    table

/-- Open the next table of an array of tables, which may be new. -/
def openElement? (table : Table) (path : KeyPath) : Option Table :=
  let next : Value := .table .header []
  changeAt? path.tables
    (fun table =>
      match get? table path.last with
      | none => some (put table path.last (.array .header [next]))
      | some (.array .header elements) =>
        some (put table path.last (.array .header (elements ++ [next])))
      | some _ => none)
    table

end Table

end GpuCore.Toml
