import GpuCore.Toml.Entry

/-!
# Documents

A document is a sequence of lines: entries, headers of tables and of arrays of tables, and lines
without either.  Entries belong to the table that the last header opened.

Main definitions:

- `Document`: the table read so far and the place of the next entries.
- `Document.readLine?`: the effect of a line.
- `Table.ofText?`: the table of a whole document.
-/

namespace GpuCore.Toml

/-! ## Lines -/

/-- A document on its way. -/
structure Document where
  root : Table := []
  /-- Path of the table that takes the next entries. -/
  current : List String := []
deriving Inhabited

namespace Document

/-- Put an entry into the table that takes it. -/
def assign? (document : Document) (path : KeyPath) (value : Value) : Option Document := do
  let root ←
    document.root.changeAt? document.current fun table => Table.assign? table path value
  return { document with root := root }

/-- Open the table of a header. -/
def openTable? (document : Document) (path : KeyPath) : Option Document := do
  return { root := ← document.root.openTable? path, current := path.parts }

/-- Open the next table of the array that a header names. -/
def openElement? (document : Document) (path : KeyPath) : Option Document := do
  return { root := ← document.root.openElement? path, current := path.parts }

/-- The effect of a header or an entry, and the text behind it. -/
def readLine? (document : Document) (text : List Char) : Option (Document × List Char) := do
  match text with
  | '[' :: '[' :: text =>
    match ← readKey? (skipGap text) with
    | (path, ']' :: ']' :: text) => return (← document.openElement? path, text)
    | _ => none
  | '[' :: text =>
    match ← readKey? (skipGap text) with
    | (path, ']' :: text) => return (← document.openTable? path, text)
    | _ => none
  | text =>
    let (path, value, text) ← readEntry? text
    return (← document.assign? path value, text)

/-- The document after at most `limit` further lines, which must be all. -/
def readLines? : (limit : Nat) → Document → List Char → Option Document
  | 0, _, _ => none
  | limit + 1, document, text =>
    if text.isEmpty then
      some document
    else
      match endOfLine? text with
      | some text => readLines? limit document text
      | none => do
        let (document, text) ← document.readLine? (skipGap text)
        readLines? limit document (← endOfLine? text)

end Document

/-! ## Whole documents -/

/-- The text without a byte order mark. -/
def dropByteOrderMark : List Char → List Char
  | c :: text => if c.toNat = 0xFEFF then text else c :: text
  | [] => []

/-- The table of a whole document. -/
def Table.ofText? (text : String) : Option Table :=
  let text := dropByteOrderMark text.toList
  (Document.readLines? (text.length + 1) {} text).map Document.root

end GpuCore.Toml
