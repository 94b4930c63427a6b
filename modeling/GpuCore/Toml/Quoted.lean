import GpuCore.Text.Radix
import GpuCore.Toml.Layout

/-!
# Quoted text

Text stands between quotation marks, where a backslash introduces an escape, or between
apostrophes, where every character stands for itself.  Three marks enclose text of several
lines.

Main definitions:

- `escape?`: the character that an escape stands for.
- `readText?`: text on one line, as keys and values have it.
- `readTextBlock?`: text of several lines.
-/

namespace GpuCore.Toml

open GpuCore.Text

/-! ## Escapes -/

/-- The character whose code point is written in the first `count` hexadecimal digits. -/
def codePoint? (count : Nat) (text : List Char) : Option Char := do
  let digits := text.take count
  let value ← natOfDigits? 16 digits
  if digits.length = count ∧ value.isValidChar then some (Char.ofNat value) else none

/-- The character that an escape stands for, and the length of the escape behind its
backslash. -/
def escape? : List Char → Option (Char × Nat)
  | 'b' :: _ => some ('\x08', 1)
  | 't' :: _ => some ('\t', 1)
  | 'n' :: _ => some ('\n', 1)
  | 'f' :: _ => some ('\x0c', 1)
  | 'r' :: _ => some ('\r', 1)
  | 'e' :: _ => some ('\x1b', 1)
  | '\x22' :: _ => some ('\x22', 1)
  | '\\' :: _ => some ('\\', 1)
  | 'x' :: text => (codePoint? 2 text).map fun c => (c, 3)
  | 'u' :: text => (codePoint? 4 text).map fun c => (c, 5)
  | 'U' :: text => (codePoint? 8 text).map fun c => (c, 9)
  | _ => none

/-- The text behind gaps and line ends. -/
def skipBlankLines : List Char → List Char
  | [] => []
  | '\n' :: text => skipBlankLines text
  | '\r' :: '\n' :: text => skipBlankLines text
  | c :: text => if isGap c then skipBlankLines text else c :: text

/-- The text behind a backslash at the end of a line: the line end and all gaps and line ends
that follow it are skipped. -/
def continuation? (text : List Char) : Option (List Char) :=
  (newline? (skipGap text)).map skipBlankLines

/-! ## Text on one line -/

/-- The rest of a text up to the closing mark, after the characters `read` (in reverse), and
what follows the mark.  Escapes count only between quotation marks. -/
def readUntil? (mark : Char) (read : List Char) : List Char → Option (String × List Char)
  | [] => none
  | c :: text =>
    if c = mark then
      some (String.ofList read.reverse, text)
    else if c = '\\' ∧ mark = '\x22' then
      match escape? text with
      | some (c, length) => readUntil? mark (c :: read) (text.drop length)
      | none => none
    else if isPermitted c then
      readUntil? mark (c :: read) text
    else
      none
termination_by text => text.length
decreasing_by all_goals simp only [List.length_cons, List.length_drop]; omega

/-- A text on one line. -/
def readText? : List Char → Option (String × List Char)
  | '\x22' :: text => readUntil? '\x22' [] text
  | '\x27' :: text => readUntil? '\x27' [] text
  | _ => none

/-! ## Text of several lines -/

/-- What follows gaps and line ends is not longer. -/
theorem length_skipBlankLines_le (text : List Char) :
    (skipBlankLines text).length ≤ text.length := by
  fun_induction skipBlankLines text with
  | case1 => exact Nat.le_refl 0
  | case2 text ih => rw [List.length_cons]; omega
  | case3 text ih => rw [List.length_cons, List.length_cons]; omega
  | case4 c text _ _ _ ih => rw [List.length_cons]; omega
  | case5 c text => exact Nat.le_refl _

/-- What follows a continued line is shorter. -/
theorem length_continuation? {text rest : List Char} (h : continuation? text = some rest) :
    rest.length < text.length := by
  obtain ⟨behind, hbehind, rfl⟩ := Option.map_eq_some_iff.1 h
  have hline := length_newline? hbehind
  have hgap := (List.dropWhile_suffix isGap (l := text)).length_le
  have hrest := length_skipBlankLines_le behind
  simp only [skipGap] at hline
  omega

/-- The three marks, if a text begins with them. -/
def blockMark? : List Char → Option (Char × List Char)
  | '\x22' :: '\x22' :: '\x22' :: text => some ('\x22', text)
  | '\x27' :: '\x27' :: '\x27' :: text => some ('\x27', text)
  | _ => none

/-- The rest of a text of several lines, after the characters `read` (in reverse).  The last
three of a run of marks close it; one or two marks before them belong to the text. -/
def readBlockUntil? (mark : Char) (read : List Char) :
    List Char → Option (String × List Char)
  | [] => none
  | c :: text =>
    if c = mark then
      let marks := 1 + (text.takeWhile (· = mark)).length
      if 3 ≤ marks then
        let kept := min (marks - 3) 2
        some (String.ofList (List.replicate kept mark ++ read).reverse, text.drop (kept + 2))
      else
        readBlockUntil? mark (c :: read) text
    else if c = '\\' ∧ mark = '\x22' then
      match escape? text with
      | some (c, length) => readBlockUntil? mark (c :: read) (text.drop length)
      | none =>
        match _ : continuation? text with
        | some rest => readBlockUntil? mark read rest
        | none => none
    else if isPermitted c || c = '\n' then
      readBlockUntil? mark (c :: read) text
    else
      match _ : newline? (c :: text) with
      | some rest => readBlockUntil? mark ('\n' :: read) rest
      | none => none
termination_by text => text.length
decreasing_by
  · simp only [List.length_cons]; omega
  · simp only [List.length_cons, List.length_drop]; omega
  · have := length_continuation? ‹continuation? text = some rest›
    simp only [List.length_cons]; omega
  · simp only [List.length_cons]; omega
  · exact length_newline? ‹_›

/-- A text of several lines; a line end right behind the opening marks does not count. -/
def readTextBlock? (text : List Char) : Option (String × List Char) := do
  let (mark, text) ← blockMark? text
  readBlockUntil? mark [] ((newline? text).getD text)

end GpuCore.Toml
