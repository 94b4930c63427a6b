import GpuCore.Text.Blank
import GpuCore.Text.Radix
import GpuCore.Text.Terminal

/-!
# Trace commands

A trace records what a program did with the graphics processor, one command to a line: words
for the data channel, a word for the control channel, or the end of a period.

Main definitions:

- `Command`: one recorded step.
- `Command.render` and `renderAll`: the canonical lines.
- `Cause` and `Failure`: why a text is no trace, and where.
- `readLine`: the command of a line, if it has one.
- `readAll`: the commands of a text.
-/

namespace GpuCore.Trace

open GpuCore.Text

/-! ## Commands -/

/-- One recorded step. -/
inductive Command where
  /-- Words for the data channel. -/
  | data (words : List UInt32)
  /-- A word for the control channel. -/
  | control (word : UInt32)
  /-- The end of a period. -/
  | vsync
deriving DecidableEq, Repr, Inhabited

/-! ## Writing -/

/-- Words in eight digits each, every one after a blank. -/
def renderWords (words : List UInt32) : List Char :=
  words.flatMap fun word => ' ' :: hexPadded true 8 word.toNat

/-- The canonical line of a command, without its end. -/
def Command.render : Command → List Char
  | data words => 'g' :: 'p' :: '0' :: renderWords words
  | control word => 'g' :: 'p' :: '1' :: renderWords [word]
  | vsync => ['v', 's', 'y', 'n', 'c']

/-- The canonical text of a trace. -/
def renderAll (commands : List Command) : List Char :=
  commands.flatMap fun command => command.render ++ ['\n']

/-! ## Failures -/

/-- Why a line is no command. -/
inductive Cause where
  | unknownCommand (name : List Char)
  | invalidWord (word : List Char)
  | controlArity
deriving DecidableEq, Repr, Inhabited

/-- Why a text is no trace, and the line that is to blame, counted from one. -/
structure Failure where
  line : Nat
  cause : Cause
deriving DecidableEq, Repr, Inhabited

/-- What is wrong with a line. -/
def Cause.message : Cause → String
  | unknownCommand name => "unknown command '" ++ String.ofList name ++ "'"
  | invalidWord word => "invalid word '" ++ String.ofList word ++ "'"
  | controlArity => "gp1 takes exactly one word"

/-- The text shown for a failure.  It quotes the input, and is fit for a terminal. -/
def Failure.message (failure : Failure) : String :=
  let text := "line " ++ failure.line.repr ++ ": " ++ failure.cause.message
  String.ofList (showable text.toList)

/-! ## Reading -/

/-- A field without the marks `0` and `letter` in front of it. -/
def dropMarks (letter : Char) : List Char → List Char
  | '0' :: c :: text => if c = letter then dropMarks letter text else '0' :: c :: text
  | text => text

/-- A word: hexadecimal digits, perhaps behind marks `0x` and then `0X`. -/
def readWord (field : List Char) : Except Cause UInt32 :=
  match word? (dropMarks 'X' (dropMarks 'x' field)) with
  | some word => .ok word
  | none => .error (.invalidWord field)

/-- A command of the given name and words. -/
def commandOf (name : List Char) (words : List UInt32) : Except Cause Command :=
  match name.map Char.toLower with
  | ['g', 'p', '0'] => .ok (.data words)
  | ['g', 'p', '1'] =>
    match words with
    | [word] => .ok (.control word)
    | _ => .error .controlArity
  | ['v', 's', 'y', 'n', 'c'] => .ok .vsync
  | name => .error (.unknownCommand name)

/-- The part of a line in front of its comment. -/
def withoutComment (line : List Char) : List Char :=
  line.takeWhile (· ≠ '#')

/-- The command of a line, if it has one.  All words are read before the command is looked
at. -/
def readLine (line : List Char) : Except Cause (Option Command) :=
  match fields (withoutComment line) with
  | [] => .ok none
  | name :: words => do
    let words ← words.mapM readWord
    return some (← commandOf name words)

/-- The commands of the lines from number `first` on. -/
def readLines (first : Nat) : List (List Char) → Except Failure (List Command)
  | [] => .ok []
  | line :: lines => do
    let command ← (readLine line).mapError fun cause => ⟨first, cause⟩
    let commands ← readLines (first + 1) lines
    return command.toList ++ commands

/-- The commands of a text. -/
def readAll (text : List Char) : Except Failure (List Command) :=
  readLines 1 (split '\n' text)

end GpuCore.Trace
