/-!
# Text for a terminal

Messages may quote any input, so that control characters and escape sequences are left out of
what is shown.  Escape sequences are told from text in the manner of a terminal.

Main definitions:

- `TerminalMode` and `TerminalMode.next`: what a character belongs to.
- `showable`: the text that a terminal shows.

Main results:

- `showable_eq_self`: text without control characters is shown as it is.
-/

namespace GpuCore.Text

/-! ## Modes -/

/-- What the next character belongs to. -/
inductive TerminalMode where
  | text
  /-- A sequence that an escape character opened. -/
  | escape
  /-- Such a sequence behind its first character, which selects among others. -/
  | selection
  /-- A control sequence, up to its final letter. -/
  | control
  /-- A string that a bell ends. -/
  | bellString
  /-- A string that a closing byte ends. -/
  | closedString
  /-- A device string before its parameters. -/
  | device
  /-- A device string within its parameters. -/
  | deviceParameters
  /-- A device string behind its parameters, before its final letter. -/
  | deviceSelection
deriving DecidableEq, Repr, Inhabited

/-- A terminal takes strings byte by byte, so that the closing byte counts within the encoding
of a character as well. -/
def closesString (c : Char) : Bool :=
  (String.utf8EncodeChar c).contains 0x9C

/-- What follows a character that is not shown. -/
def TerminalMode.next (mode : TerminalMode) (c : Char) : TerminalMode :=
  if c = '\x1b' then .escape
  else if c = '\x18' ∨ c = '\x1a' then .text
  else
    match mode with
    | .text => .text
    | .escape =>
      if c = '[' then .control
      else if c = ']' then .bellString
      else if c = 'P' then .device
      else if c = 'X' ∨ c = '^' ∨ c = '_' then .closedString
      else if ' ' ≤ c ∧ c ≤ '/' then .selection
      else if '0' ≤ c ∧ c ≤ '~' then .text
      else .escape
    | .selection => if '0' ≤ c ∧ c ≤ '~' then .text else .selection
    | .control => if '@' ≤ c ∧ c ≤ '~' then .text else .control
    | .bellString => if c = '\x07' then .text else .bellString
    | .closedString => if closesString c then .text else .closedString
    | .device =>
      if ' ' ≤ c ∧ c ≤ '/' then .deviceSelection
      else if '0' ≤ c ∧ c ≤ '?' then .deviceParameters
      else if '@' ≤ c ∧ c ≤ '~' then .closedString
      else .device
    | .deviceParameters =>
      if ' ' ≤ c ∧ c ≤ '/' then .deviceSelection
      else if '<' ≤ c ∧ c ≤ '~' then .closedString
      else .deviceParameters
    | .deviceSelection => if '0' ≤ c ∧ c ≤ '~' then .closedString else .deviceSelection

/-! ## Text -/

/-- Characters that are shown: all but control characters, of which those that move within a
line or to a new one are shown. -/
def isShowable (c : Char) : Bool :=
  (' ' ≤ c && c ≠ '\x7f') || c = '\t' || c = '\n' || c = '\x0c' || c = '\x0d'

/-- The characters of a text that are shown, when the text continues in a mode. -/
def showableFrom (mode : TerminalMode) : List Char → List Char
  | [] => []
  | c :: text =>
    if mode = .text ∧ isShowable c then c :: showableFrom .text text
    else showableFrom (mode.next c) text

/-- The text that a terminal shows. -/
def showable (text : List Char) : List Char :=
  showableFrom .text text

/-- Text without control characters is shown as it is. -/
theorem showable_eq_self {text : List Char} (h : text.all isShowable) : showable text = text := by
  induction text with
  | nil => rfl
  | cons c text ih =>
    rw [List.all_cons, Bool.and_eq_true] at h
    rw [showable, showableFrom, if_pos ⟨rfl, h.1⟩]
    exact congrArg (c :: ·) (ih h.2)

end GpuCore.Text
