import GpuCore.Toml.Quoted
import GpuCore.Toml.Scalar
import GpuCore.Toml.Table

/-!
# Entries

An entry is a key, an equals sign and a value.  Keys have parts between points; values are
scalars, texts, arrays and inline tables, nested to a limited depth.

Main definitions:

- `readKey?`: a key.
- `readValue?`: a value of limited depth.
- `readEntry?`: an entry.
-/

namespace GpuCore.Toml

/-! ## Keys -/

/-- Characters of a key without quotes. -/
def isBare (c : Char) : Bool :=
  c.isAlphanum || c = '-' || c = '_'

/-- One part of a key. -/
def readPart? (text : List Char) : Option (String × List Char) :=
  if (blockMark? text).isSome then
    none
  else
    match readText? text with
    | some read => some read
    | none =>
      let part := text.takeWhile isBare
      if part.isEmpty then none else some (String.ofList part, text.dropWhile isBare)

/-- The parts of a key of at most `limit` parts. -/
def readParts? : (limit : Nat) → List Char → Option (KeyPath × List Char)
  | 0, _ => none
  | limit + 1, text => do
    let (part, text) ← readPart? text
    match skipGap text with
    | '.' :: text =>
      let (path, text) ← readParts? limit (skipGap text)
      return ({ path with tables := part :: path.tables }, text)
    | text => return (⟨[], part⟩, text)

/-- Keys have at most this many parts. -/
def mostParts : Nat := 80

/-- A key, and the text behind it and a gap. -/
def readKey? (text : List Char) : Option (KeyPath × List Char) :=
  readParts? mostParts text

/-! ## Values -/

/-- A way to read a value at the start of a text. -/
abbrev ValueReader := List Char → Option (Value × List Char)

/-- The rest of an array of at most `limit` elements.  A comma may follow the last element. -/
def readElements? (readValue? : ValueReader) :
    (limit : Nat) → List Char → Option (List Value × List Char)
  | 0, _ => none
  | limit + 1, text => do
    match ← skipLines? text with
    | ']' :: text => return ([], text)
    | text =>
      let (value, text) ← readValue? text
      match ← skipLines? text with
      | ',' :: text =>
        let (elements, text) ← readElements? readValue? limit text
        return (value :: elements, text)
      | ']' :: text => return ([value], text)
      | _ => none

/-- A key, an equals sign and a value, where `skip?` passes over what may stand around the
equals sign. -/
def readEntryWith? (skip? : List Char → Option (List Char)) (readValue? : ValueReader)
    (text : List Char) : Option (KeyPath × Value × List Char) := do
  let (path, text) ← readKey? text
  match ← skip? text with
  | '=' :: text =>
    let (value, text) ← readValue? (← skip? text)
    return (path, value, text)
  | _ => none

/-- The rest of an inline table with at most `limit` further entries.  A comma may follow the
last entry, and lines may end everywhere but within a key. -/
def readEntries? (readValue? : ValueReader) :
    (limit : Nat) → Table → List Char → Option (Table × List Char)
  | 0, _, _ => none
  | limit + 1, table, text => do
    match ← skipLines? text with
    | '\x7d' :: text => return (table, text)
    | text =>
      let (path, value, text) ← readEntryWith? skipLines? readValue? text
      let table ← table.assign? path value
      match ← skipLines? text with
      | ',' :: text => readEntries? readValue? limit table text
      | '\x7d' :: text => return (table, text)
      | _ => none

/-- A value without parts. -/
def readPlain? (text : List Char) : Option (Value × List Char) :=
  let quoted := if (blockMark? text).isSome then readTextBlock? text else readText? text
  match quoted with
  | some (content, text) => some (.string content, text)
  | none => readScalar? text

/-- A value in which at most `depth` arrays and inline tables are nested. -/
def readValue? : (depth : Nat) → ValueReader
  | 0, text => readPlain? text
  | depth + 1, text =>
    match text with
    | '[' :: text => do
      let (elements, text) ← readElements? (readValue? depth) (text.length + 1) text
      return (.array .inline elements, text)
    | '\x7b' :: text => do
      let (entries, text) ← readEntries? (readValue? depth) (text.length + 1) [] text
      return (.table .inline entries, text)
    | text => readPlain? text

/-! ## Entries -/

/-- Arrays and inline tables may be nested this deep. -/
def mostNested : Nat := 80

/-- An entry on a line of its own: its key, its value and the text behind it. -/
def readEntry? (text : List Char) : Option (KeyPath × Value × List Char) :=
  readEntryWith? (fun text => some (skipGap text)) (readValue? mostNested) text

end GpuCore.Toml
