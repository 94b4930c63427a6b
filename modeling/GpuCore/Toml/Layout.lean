/-!
# Layout

Gaps, comments and line ends.  A line ends with a line feed, which a carriage return may
precede.  Control characters other than the tab are permitted nowhere in a document.

Main definitions:

- `isPermitted`: characters that may appear within a line.
- `skipGap`: blanks and tabs.
- `endOfLine?`: the rest of a line that holds nothing further.
- `skipLines?`: gaps, comments and line ends inside of brackets.

Main results:

- `length_newline?`: what follows a line end is shorter.
-/

namespace GpuCore.Toml

/-- Characters that may appear within a line: no control characters but the tab. -/
def isPermitted (c : Char) : Bool :=
  c = '\t' || (' ' ≤ c && c ≠ '\x7f')

/-- Characters of a gap. -/
def isGap (c : Char) : Bool :=
  c = ' ' || c = '\t'

/-- The text behind a gap. -/
def skipGap (text : List Char) : List Char :=
  text.dropWhile isGap

/-- The text behind a line end. -/
def newline? : List Char → Option (List Char)
  | '\n' :: text => some text
  | '\r' :: '\n' :: text => some text
  | _ => none

/-- What follows a line end is shorter. -/
theorem length_newline? {text rest : List Char} (h : newline? text = some rest) :
    rest.length < text.length := by
  unfold newline? at h
  split at h <;> simp only [Option.some.injEq, reduceCtorEq] at h <;>
    simp only [← h, List.length_cons] <;> omega

/-- The text behind a comment, if there is one. -/
def skipComment : List Char → List Char
  | '#' :: text => text.dropWhile isPermitted
  | text => text

/-- The text behind the rest of a line that holds nothing but a gap and a comment.  The last
line needs no end. -/
def endOfLine? (text : List Char) : Option (List Char) :=
  let text := skipComment (skipGap text)
  if text.isEmpty then some [] else newline? text

/-- The text behind gaps, comments and line ends, from within a comment or outside. -/
def skipLinesFrom? (inComment : Bool) : List Char → Option (List Char)
  | [] => some []
  | '\n' :: text => skipLinesFrom? false text
  | '\r' :: '\n' :: text => skipLinesFrom? false text
  | c :: text =>
    if inComment then
      if isPermitted c then skipLinesFrom? true text else none
    else if isGap c then
      skipLinesFrom? false text
    else if c = '#' then
      skipLinesFrom? true text
    else
      some (c :: text)

/-- The text behind gaps, comments and line ends. -/
def skipLines? (text : List Char) : Option (List Char) :=
  skipLinesFrom? false text

end GpuCore.Toml
