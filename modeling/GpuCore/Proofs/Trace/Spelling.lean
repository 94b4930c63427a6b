import Mathlib.Data.List.Forall2
import GpuCore.Proofs.Text.Fields
import GpuCore.Proofs.Text.Radix
import GpuCore.Trace.Command

/-!
# Spellings of a trace

A trace is written with one line to a command.  Whoever writes one by hand may leave lines empty,
add comments and blanks, mark words as hexadecimal and use either case.  All these spellings are
read as the same commands.

Main definitions:

- `LaysOut`: a line with its fields, blanks and comment.
- `SpellsField` and `Command.Spells`: fields that stand for a word and for a command.
- `Records`: lines that stand for commands.

Main results:

- `laysOut_iff`: every line lays out the fields that are read from it, and no others.
- `readLine_of_spells` and `readLine_of_blank`: what is read from a line.
- `records_render`: the canonical lines are among the spellings.
-/

namespace GpuCore.Trace

open GpuCore.Text

/-! ## Lines -/

/-- A line of fields, with blanks between them and perhaps around them, and perhaps a comment. -/
def LaysOut (line : List Char) (parts : List (List Char)) : Prop :=
  ∃ text comment, line = text ++ comment ∧ '#' ∉ text ∧ (∀ c ∈ comment.head?, c = '#') ∧
    Separated text parts

/-- A comment begins with the first mark of a line. -/
theorem withoutComment_append {text comment : List Char} (htext : '#' ∉ text)
    (hcomment : ∀ c ∈ comment.head?, c = '#') : withoutComment (text ++ comment) = text := by
  have hall : ∀ c ∈ text, decide (c ≠ '#') = true := fun c hmem =>
    decide_eq_true fun hmark => htext (hmark ▸ hmem)
  rw [withoutComment, List.takeWhile_append_of_pos hall]
  cases comment with
  | nil => simp
  | cons c comment =>
      have hmark : c = '#' := hcomment c rfl
      simp [hmark]

/-- Every line lays out the fields that are read from it, and no others. -/
theorem laysOut_iff {line : List Char} {parts : List (List Char)} :
    LaysOut line parts ↔ fields (withoutComment line) = parts := by
  constructor
  · rintro ⟨text, comment, rfl, htext, hcomment, hseparated⟩
    rw [withoutComment_append htext hcomment]
    exact fields_of_separated hseparated
  · intro hfields
    refine ⟨withoutComment line, line.dropWhile (· ≠ '#'), ?_, ?_, ?_, fields_eq_iff.1 hfields⟩
    · exact List.takeWhile_append_dropWhile.symm
    · intro hmem
      have hkept := List.all_eq_true.1 List.all_takeWhile '#' hmem
      simp at hkept
    · intro c hc
      have hdropped := List.head?_dropWhile_not (· ≠ '#') line
      rw [Option.mem_def.1 hc] at hdropped
      simpa using hdropped

/-! ## Words and commands -/

/-- A field that stands for a word: digits, perhaps behind one mark. -/
def SpellsField (word : UInt32) (field : List Char) : Prop :=
  ∃ mark digits, mark ∈ [[], ['0', 'x'], ['0', 'X']] ∧ SpellsWord word digits ∧
    field = mark ++ digits

/-- The fields of a command.  Its name may be written in either case. -/
inductive Command.Spells : Command → List (List Char) → Prop
  | data {name : List Char} {words : List UInt32} {fields : List (List Char)}
      (hname : name.map Char.toLower = ['g', 'p', '0'])
      (hwords : List.Forall₂ SpellsField words fields) : Spells (.data words) (name :: fields)
  | control {name field : List Char} {word : UInt32}
      (hname : name.map Char.toLower = ['g', 'p', '1'])
      (hword : SpellsField word field) : Spells (.control word) [name, field]
  | vsync {name : List Char} (hname : name.map Char.toLower = ['v', 's', 'y', 'n', 'c']) :
      Spells .vsync [name]

/-- Lines that stand for commands: one line for each of them, in order, and lines without
fields. -/
inductive Records : List (List Char) → List Command → Prop
  | nil : Records [] []
  | remark {line : List Char} {lines : List (List Char)} {commands : List Command}
      (hline : LaysOut line []) (hrest : Records lines commands) : Records (line :: lines) commands
  | command {line : List Char} {parts lines : List (List Char)} {command : Command}
      {commands : List Command} (hline : LaysOut line parts) (hspells : command.Spells parts)
      (hrest : Records lines commands) : Records (line :: lines) (command :: commands)

/-! ## Reading -/

/-- A field without the letter of a mark has no such mark. -/
theorem dropMarks_of_not_mem {letter : Char} {text : List Char} (hletter : letter ∉ text) :
    dropMarks letter text = text := by
  unfold dropMarks
  split
  · next c text =>
      have hother : c ≠ letter := by
        rintro rfl
        simp at hletter
      rw [if_neg hother]
  · rfl

/-- The word that a field stands for is read from it. -/
theorem SpellsField.readWord_eq {word : UInt32} {field : List Char} (h : SpellsField word field) :
    readWord field = .ok word := by
  obtain ⟨mark, digits, hmark, hdigits, rfl⟩ := h
  have hsmall : 'x' ∉ digits := hdigits.not_mem (by decide)
  have hcapital : 'X' ∉ digits := hdigits.not_mem (by decide)
  have hdropped : dropMarks 'X' (dropMarks 'x' (mark ++ digits)) = digits := by
    simp only [List.mem_cons, List.not_mem_nil, or_false] at hmark
    rcases hmark with rfl | rfl | rfl
    · rw [List.nil_append, dropMarks_of_not_mem hsmall, dropMarks_of_not_mem hcapital]
    · rw [List.cons_append, List.cons_append, List.nil_append, dropMarks, if_pos rfl,
        dropMarks_of_not_mem hsmall, dropMarks_of_not_mem hcapital]
    · have hother : 'x' ∉ ['0', 'X'] ++ digits := by simpa using hsmall
      rw [dropMarks_of_not_mem hother, List.cons_append, List.cons_append, List.nil_append,
        dropMarks, if_pos rfl, dropMarks_of_not_mem hcapital]
  rw [readWord, hdropped, hdigits.word?_eq]

/-- Several words are read where each of them is. -/
theorem mapM_readWord_of_map {fields : List (List Char)} {words : List UInt32}
    (h : fields.map readWord = words.map .ok) : fields.mapM readWord = .ok words := by
  induction fields generalizing words with
  | nil =>
      rw [List.map_nil, eq_comm, List.map_eq_nil_iff] at h
      rw [List.mapM_nil, h]
      rfl
  | cons field fields ih =>
      rw [List.map_cons, eq_comm] at h
      obtain ⟨word, words, rfl, hword, hwords⟩ := List.map_eq_cons_iff.1 h
      rw [List.mapM_cons, ← hword, ih hwords.symm]
      rfl

/-- The first word that cannot be read is to blame. -/
theorem mapM_readWord_of_error {before after : List (List Char)} {field : List Char} {cause : Cause}
    (hbefore : ∀ other ∈ before, ∃ word, readWord other = .ok word)
    (hfield : readWord field = .error cause) :
    (before ++ field :: after).mapM readWord = .error cause := by
  induction before with
  | nil =>
      rw [List.nil_append, List.mapM_cons, hfield]
      rfl
  | cons other before ih =>
      rw [List.forall_mem_cons] at hbefore
      obtain ⟨word, hword⟩ := hbefore.1
      rw [List.cons_append, List.mapM_cons, hword, ih hbefore.2]
      rfl

/-- The words that fields stand for are read from them. -/
theorem mapM_readWord_of_spells {words : List UInt32} {fields : List (List Char)}
    (h : List.Forall₂ SpellsField words fields) : fields.mapM readWord = .ok words := by
  apply mapM_readWord_of_map
  induction h with
  | nil => rfl
  | cons hword _ ih => rw [List.map_cons, hword.readWord_eq, ih, List.map_cons]

/-! ## Reading commands -/

section commandOf

variable {name : List Char} {words : List UInt32}

theorem commandOf_data (hname : name.map Char.toLower = ['g', 'p', '0']) :
    commandOf name words = .ok (.data words) := by
  unfold commandOf
  rw [hname]
  rfl

theorem commandOf_control (hname : name.map Char.toLower = ['g', 'p', '1']) {word : UInt32}
    (hwords : words = [word]) : commandOf name words = .ok (.control word) := by
  unfold commandOf
  rw [hname, hwords]
  rfl

theorem commandOf_arity (hname : name.map Char.toLower = ['g', 'p', '1'])
    (hwords : words.length ≠ 1) : commandOf name words = .error .controlArity := by
  unfold commandOf
  rw [hname]
  split
  · next heq => cases heq
  · split
    · exact absurd rfl hwords
    · rfl
  · next heq => cases heq
  · next hother _ => exact absurd rfl hother

theorem commandOf_vsync (hname : name.map Char.toLower = ['v', 's', 'y', 'n', 'c']) :
    commandOf name words = .ok .vsync := by
  unfold commandOf
  rw [hname]
  rfl

theorem commandOf_unknown
    (hname :
      name.map Char.toLower ∉ [['g', 'p', '0'], ['g', 'p', '1'], ['v', 's', 'y', 'n', 'c']]) :
    commandOf name words = .error (.unknownCommand (name.map Char.toLower)) := by
  simp only [List.mem_cons, List.not_mem_nil, or_false, not_or] at hname
  unfold commandOf
  split
  · next heq => exact absurd heq hname.1
  · next heq => exact absurd heq hname.2.1
  · next heq => exact absurd heq hname.2.2
  · rfl

end commandOf

/-- What is read from a line with fields. -/
theorem readLine_of_fields {line name : List Char} {words : List (List Char)}
    (hline : LaysOut line (name :: words)) :
    readLine line = (words.mapM readWord >>= commandOf name).map some := by
  unfold readLine
  rw [laysOut_iff.1 hline]
  cases hwords : words.mapM readWord with
  | error cause => simp only [hwords]; rfl
  | ok values =>
      simp only [hwords]
      change (commandOf name values >>= fun command => pure (some command)) =
        (commandOf name values).map some
      cases commandOf name values <;> rfl

/-- A line that stands for a command. -/
theorem readLine_of_spells {line : List Char} {parts : List (List Char)} {command : Command}
    (hline : LaysOut line parts) (hspells : command.Spells parts) :
    readLine line = .ok (some command) := by
  cases hspells with
  | data hname hwords =>
      rw [readLine_of_fields hline, mapM_readWord_of_spells hwords]
      exact congrArg (Except.map some) (commandOf_data hname)
  | control hname hword =>
      rw [readLine_of_fields hline, mapM_readWord_of_spells (.cons hword .nil)]
      exact congrArg (Except.map some) (commandOf_control hname rfl)
  | vsync hname =>
      rw [readLine_of_fields hline, mapM_readWord_of_spells .nil]
      exact congrArg (Except.map some) (commandOf_vsync hname)

/-- A line without fields. -/
theorem readLine_of_blank {line : List Char} (hline : LaysOut line []) :
    readLine line = .ok none := by
  rw [readLine, laysOut_iff.1 hline]

/-! ## Canonical lines -/

/-- A character of written words is a blank or one of their digits. -/
theorem mem_renderWords {words : List UInt32} {c : Char} (hc : c ∈ renderWords words) :
    c = ' ' ∨ digit? c ≠ none := by
  obtain ⟨word, -, hmem⟩ := List.mem_flatMap.1 hc
  rcases List.mem_cons.1 hmem with hblank | hdigit
  · exact .inl hblank
  · exact .inr fun hnone => (spellsWord_hexPadded true word).not_mem hnone hdigit

/-- Few characters occur in a canonical line. -/
theorem Command.not_mem_render {c : Char} (hdigit : digit? c = none)
    (hother : c ∉ ['g', 'p', '0', '1', 'v', 's', 'y', 'n', 'c', ' ']) (command : Command) :
    c ∉ command.render := by
  have hwords (words : List UInt32) : c ∉ renderWords words := by
    intro hmem
    rcases mem_renderWords hmem with rfl | hsome
    · simp at hother
    · exact hsome hdigit
  simp only [List.mem_cons, List.not_mem_nil, or_false, not_or] at hother
  cases command <;> simp [render, hother, hwords]

/-- The digits of a word, as a field. -/
theorem spellsField_hexPadded (word : UInt32) : SpellsField word (hexPadded true 8 word.toNat) :=
  ⟨[], _, List.mem_cons_self, spellsWord_hexPadded true word, rfl⟩

/-- Written words begin with a blank. -/
theorem isBlank_head_renderWords (words : List UInt32) :
    ∀ c ∈ (renderWords words).head?, isBlank c = true := by
  cases words with
  | nil => simp [renderWords]
  | cons word words =>
      rintro c ⟨⟩
      decide

theorem separated_renderWords (words : List UInt32) :
    Separated (renderWords words) (words.map fun word => hexPadded true 8 word.toNat) := by
  induction words with
  | nil => exact .nil
  | cons word words ih =>
      have hdigits := spellsWord_hexPadded true word
      have hsolid : ∀ c ∈ hexPadded true 8 word.toNat, isBlank c = false := fun c hmem =>
        Bool.eq_false_iff.2 fun hblank => hdigits.not_mem (digit?_of_isBlank hblank) hmem
      exact .blank (by decide)
        (.field hdigits.ne_nil hsolid (isBlank_head_renderWords words) ih)

/-- A name with written words behind it. -/
theorem separated_append_renderWords {name : List Char} (hname : name ≠ [])
    (hsolid : ∀ c ∈ name, isBlank c = false) (words : List UInt32) :
    Separated (name ++ renderWords words)
      (name :: words.map fun word => hexPadded true 8 word.toNat) :=
  .field hname hsolid (isBlank_head_renderWords words) (separated_renderWords words)

/-- A canonical line lays out fields that stand for its command. -/
theorem Command.exists_laysOut_render (command : Command) :
    ∃ parts, LaysOut command.render parts ∧ command.Spells parts := by
  have hlaysOut {parts : List (List Char)} (hseparated : Separated command.render parts) :
      LaysOut command.render parts :=
    ⟨command.render, [], (List.append_nil _).symm, not_mem_render (by decide) (by decide) command,
      by simp, hseparated⟩
  cases command with
  | data words =>
      have hline : Separated (['g', 'p', '0'] ++ renderWords words) _ :=
        separated_append_renderWords (by decide) (by simp [isBlank, blankRanges]) words
      refine ⟨_, hlaysOut hline, .data (by decide) ?_⟩
      rw [List.forall₂_map_right_iff, List.forall₂_same]
      exact fun word _ => spellsField_hexPadded word
  | control word =>
      have hline : Separated (['g', 'p', '1'] ++ renderWords [word]) _ :=
        separated_append_renderWords (by decide) (by simp [isBlank, blankRanges]) [word]
      exact ⟨_, hlaysOut hline, .control (by decide) (spellsField_hexPadded word)⟩
  | vsync =>
      have hline : Separated (['v', 's', 'y', 'n', 'c'] ++ renderWords []) _ :=
        separated_append_renderWords (by decide) (by simp [isBlank, blankRanges]) []
      exact ⟨_, hlaysOut hline, .vsync (by decide)⟩

/-- The canonical lines, and the empty line at the end, stand for the commands. -/
theorem records_render (commands : List Command) :
    Records (commands.map Command.render ++ [[]]) commands := by
  induction commands with
  | nil => exact .remark (laysOut_iff.2 (by decide)) .nil
  | cons command commands ih =>
      obtain ⟨parts, hline, hspells⟩ := command.exists_laysOut_render
      exact .command hline hspells ih

end GpuCore.Trace
