import GpuCore.Proofs.Operation.Stages

/-!
# Staging a display mode

A mode word is decoded at once, and the end of the period applies it.  Until then width, color
depth and interlacing stay what they were.  The line factor does not wait: a new visible height is
multiplied by the factor of the staged mode, and a negative position is divided by it.  So the
height of a mode can be shown before the rest of it.

Main definitions:

- `Display.Applied`: what is committed as a whole, as `Display.applied` and as a staged mode makes
  it of a visible height.
- `Display.lastMode`: the mode that commands stage last.
- `Display.SameLines`: two displays that show the same, and do so behind the same commands.
- `Display.changesHeight`: whether commands change the visible height on the way.

Main results:

- `Display.applied_commit_run`: what a commit applies.
- `Display.SameLines.run_without_modes`: mode words that keep the line factor show nothing early.
- `Display.applied_ne_iff`: when a mode word in front of other commands shows early.
- `Gpu.applied_run`: all of it, for the display in every reachable state.
-/

namespace GpuCore

namespace Display

/-! ## Applied modes -/

/-- What a commit applies. -/
structure Applied where
  size : Point
  rgb24 : Bool
  interlaced : Bool
deriving DecidableEq, Repr

/-- The same with another height. -/
def Applied.withLines (applied : Applied) (lines : Int) : Applied :=
  { applied with size := { applied.size with y := lines } }

/-- What the display shows. -/
def applied (display : Display) : Applied where
  size := display.size
  rgb24 := display.current.rgb24
  interlaced := display.interlaced

/-- What a mode makes of a visible height. -/
def Mode.applied (mode : Mode) (height : Int) : Applied where
  size := ⟨mode.width, height * mode.lineFactor⟩
  rgb24 := mode.rgb24
  interlaced := mode.interlaced

namespace Command

/-- The mode that a command stages. -/
def mode? : Command → Option Mode
  | setMode word => some (.ofWord word)
  | _ => none

/-- Commands that neither set the line factor nor divide by it. -/
def keepsFactor : Command → Bool
  | setPosition .. | setMode _ | commit => false
  | _ => true

end Command

/-- The mode that commands stage last, or else `mode`. -/
def lastMode (mode : Mode) (commands : List Command) : Mode :=
  commands.foldl (fun mode command => command.mode?.getD mode) mode

variable {display left right : Display} {command : Command} {commands : List Command}

/-- Mode words stage their mode, and no other command has a part in it. -/
theorem mode_apply (display : Display) (command : Command) :
    (display.apply command).output.mode = command.mode?.getD display.output.mode := by
  cases command with
  | setPosition x y swapped => exact congrArg Output.mode (output_setPosition display x y swapped)
  | setLines y0 y1 => exact congrArg Output.mode (output_setLines display y0 y1)
  | setMode word => exact congrArg Output.mode (output_stageMode display word)
  | _ => rfl

theorem mode_run (display : Display) (commands : List Command) :
    (display.run commands).output.mode = lastMode display.output.mode commands := by
  induction commands generalizing display with
  | nil => rfl
  | cons command commands ih =>
      have hnext := ih (display.apply command)
      rw [mode_apply] at hnext
      exact hnext

/-- Every command keeps the pending height that of the visible lines. -/
theorem keptByCommands_linesStaged : KeptByCommands LinesStaged where
  initial := linesStaged_initial
  command command h := by
    cases command with
    | setPosition x y swapped => exact h.setPosition x y swapped
    | setLines y0 y1 => exact h.setLines y0 y1
    | setMode word => exact linesStaged_stageMode _ word
    | _ => exact h
  drawing hsame h := h.of_withoutDrawing hsame
  period _ h := h

/-- A commit applies the staged mode to the visible height. -/
theorem LinesStaged.applied_commit (h : display.LinesStaged) :
    display.commit.applied = display.output.mode.applied display.current.height := by
  have hsize : display.pendingSize =
      ⟨display.pendingSize.x, display.current.height * display.lineFactor⟩ := by
    rw [← h]
  calc
    display.commit.applied =
        ⟨display.pendingSize, display.pendingRgb24, display.pendingInterlaced⟩ := rfl
    _ = display.output.mode.applied display.current.height := by
        rw [hsize]
        rfl

/-- Behind any commands, a commit applies the mode that was staged last. -/
theorem applied_commit_run (h : display.LinesStaged) (commands : List Command) :
    (display.run commands).commit.applied =
      (lastMode display.output.mode commands).applied (display.run commands).current.height := by
  have hstaged : (display.run commands).LinesStaged := by
    induction commands generalizing display with
    | nil => exact h
    | cons command commands ih => exact ih (keptByCommands_linesStaged.command command h)
  rw [hstaged.applied_commit, mode_run]

/-! ## What a command shows -/

/-- A position changes the height offset, and nothing else that has a part in the size. -/
theorem setPosition_lines (display : Display) (x y : Nat) (swapped : Bool) :
    let after := (display.setPosition x y swapped).2
    after.applied = display.applied ∧ after.current.height = display.current.height ∧
      after.lineFactor = display.lineFactor ∧
      after.heightOffset = (decodePosition display.lineFactor x y).2 := by
  obtain ⟨_, _, _, _, _, _, -, hrest⟩ := display.setPosition_rest x y swapped
  rw [hrest]
  exact ⟨rfl, rfl, rfl, rfl⟩

/-- A new visible height is shown at once, with the line factor of the staged mode. -/
theorem setLines_lines (display : Display) (y0 y1 : Nat) :
    let after := (display.setLines y0 y1).2
    let height := (y1 : Int) - y0 + display.heightOffset
    after.applied = display.applied.withLines
        (if display.current.height = height then display.size.y
        else height * display.lineFactor) ∧
      after.current.height = height ∧ after.lineFactor = display.lineFactor ∧
      after.heightOffset = display.heightOffset := by
  obtain ⟨_, _, _, _, _, hrest⟩ := display.setLines_rest y0 y1
  rw [hrest]
  exact ⟨rfl, rfl, rfl, rfl⟩

/-- Until a commit, only the height of what is shown can change. -/
theorem applied_apply (display : Display) (hstaged : command ≠ .commit) :
    (display.apply command).applied =
      display.applied.withLines (display.apply command).size.y := by
  cases command with
  | setPosition x y swapped =>
      have hsame := (setPosition_lines display x y swapped).1
      have hsize : (display.setPosition x y swapped).2.size = display.size :=
        congrArg Applied.size hsame
      rw [apply, hsame, hsize]
      rfl
  | setLines y0 y1 =>
      have hlines := (setLines_lines display y0 y1).1
      have hsize := congrArg (fun applied : Applied => applied.size.y) hlines
      rw [apply, hlines]
      exact congrArg display.applied.withLines hsize.symm
  | commit => exact absurd rfl hstaged
  | _ => rfl

theorem applied_run (display : Display) (hstaged : .commit ∉ commands) :
    (display.run commands).applied =
      display.applied.withLines (display.run commands).size.y := by
  induction commands generalizing display with
  | nil => rfl
  | cons command commands ih =>
      rw [List.mem_cons, not_or] at hstaged
      have hnext := applied_apply display (Ne.symm hstaged.1)
      have hlast := ih (display.apply command) hstaged.2
      rw [hnext] at hlast
      exact hlast

/-! ## Displays that show the same -/

/-- Two displays that show the same, with the same visible height, height offset and line factor.
They may differ in what is pending. -/
structure SameLines (left right : Display) : Prop where
  applied : left.applied = right.applied
  height : left.current.height = right.current.height
  heightOffset : left.heightOffset = right.heightOffset
  lineFactor : left.lineFactor = right.lineFactor

namespace SameLines

theorem refl (display : Display) : SameLines display display :=
  ⟨rfl, rfl, rfl, rfl⟩

/-- They show the same behind every command but a commit. -/
theorem apply (h : SameLines left right) (hstaged : command ≠ .commit) :
    SameLines (left.apply command) (right.apply command) := by
  cases command with
  | setPosition x y swapped =>
      obtain ⟨happlied, hheight, hfactor, hoffset⟩ := setPosition_lines left x y swapped
      obtain ⟨happlied', hheight', hfactor', hoffset'⟩ := setPosition_lines right x y swapped
      refine ⟨happlied.trans (h.applied.trans happlied'.symm),
        hheight.trans (h.height.trans hheight'.symm), hoffset.trans ?_,
        hfactor.trans (h.lineFactor.trans hfactor'.symm)⟩
      rw [h.lineFactor]
      exact hoffset'.symm
  | setLines y0 y1 =>
      obtain ⟨happlied, hheight, hfactor, hoffset⟩ := setLines_lines left y0 y1
      obtain ⟨happlied', hheight', hfactor', hoffset'⟩ := setLines_lines right y0 y1
      have hsize : left.size.y = right.size.y :=
        congrArg (fun applied : Applied => applied.size.y) h.applied
      rw [h.applied, h.height, h.heightOffset, h.lineFactor, hsize] at happlied
      rw [h.heightOffset] at hheight
      exact ⟨happlied.trans happlied'.symm, hheight.trans hheight'.symm,
        hoffset.trans (h.heightOffset.trans hoffset'.symm),
        hfactor.trans (h.lineFactor.trans hfactor'.symm)⟩
  | setMode word => exact ⟨h.applied, h.height, h.heightOffset, rfl⟩
  | commit => exact absurd rfl hstaged
  | _ => exact ⟨h.applied, h.height, h.heightOffset, h.lineFactor⟩

/-- A mode word that keeps the line factor shows nothing. -/
theorem setMode (h : SameLines left right) {word : UInt32}
    (hfactor : (Mode.ofWord word).lineFactor = left.lineFactor) :
    SameLines (left.apply (.setMode word)) right :=
  ⟨h.applied, h.height, h.heightOffset, hfactor.trans h.lineFactor⟩

/-- Mode words that keep the line factor can be left out: what is shown is the same. -/
theorem run_without_modes (h : SameLines left right) (hstaged : .commit ∉ commands)
    (hfactor : ∀ word, .setMode word ∈ commands →
      (Mode.ofWord word).lineFactor = left.lineFactor) :
    SameLines (left.run commands) (right.run (commands.filter (·.mode? = none))) := by
  induction commands generalizing left right with
  | nil => exact h
  | cons command commands ih =>
      rw [List.mem_cons, not_or] at hstaged
      have hlater word (hword : .setMode word ∈ commands) :=
        hfactor word (List.mem_cons_of_mem command hword)
      cases hmode : command.mode? with
      | none =>
          have hkept : (left.apply command).lineFactor = left.lineFactor := by
            have hsame := mode_apply left command
            rw [hmode] at hsame
            exact congrArg Mode.lineFactor hsame
          rw [List.filter_cons_of_pos (by simpa using hmode)]
          refine ih (h.apply (Ne.symm hstaged.1)) hstaged.2 fun word hword => ?_
          rw [hkept]
          exact hlater word hword
      | some mode =>
          -- only the left display takes the mode word, which keeps its factor
          obtain ⟨word, rfl⟩ : ∃ word, command = .setMode word := by
            cases command with
            | setMode word => exact ⟨word, rfl⟩
            | _ => cases hmode
          have hword := hfactor word List.mem_cons_self
          rw [List.filter_cons_of_neg (by simp [hmode])]
          refine ih (h.setMode hword) hstaged.2 fun later hlaterWord => ?_
          exact (hlater later hlaterWord).trans hword.symm

end SameLines

/-! ## A mode word in front of other commands -/

/-- Whether some of the commands change the visible height. -/
def changesHeight (display : Display) : List Command → Bool
  | [] => false
  | command :: commands =>
    let after := display.apply command
    after.current.height ≠ display.current.height || after.changesHeight commands

/-- What a command that keeps the line factor makes of the visible lines. -/
theorem lines_of_keepsFactor (display : Display) (hkeeps : command.keepsFactor = true) :
    let after := display.apply command
    after.lineFactor = display.lineFactor ∧ after.heightOffset = display.heightOffset ∧
      after.size.y =
        if after.current.height = display.current.height then display.size.y
        else after.current.height * display.lineFactor := by
  cases command with
  | setLines y0 y1 =>
      obtain ⟨happlied, hheight, hfactor, hoffset⟩ := setLines_lines display y0 y1
      refine ⟨hfactor, hoffset, ?_⟩
      have hsize := congrArg (fun applied : Applied => applied.size.y) happlied
      change (display.setLines y0 y1).2.size.y =
        if (display.setLines y0 y1).2.current.height = _ then _
        else (display.setLines y0 y1).2.current.height * _
      rw [hheight]
      refine hsize.trans ?_
      simp only [Applied.withLines, eq_comm]
  | setPosition x y swapped => cases hkeeps
  | setMode word => cases hkeeps
  | commit => cases hkeeps
  | _ => exact ⟨rfl, rfl, (if_pos rfl).symm⟩

theorem height_of_not_changesHeight (hsame : display.changesHeight commands = false) :
    (display.run commands).current.height = display.current.height := by
  induction commands generalizing display with
  | nil => rfl
  | cons command commands ih =>
      simp only [changesHeight, Bool.or_eq_false_iff, decide_eq_false_iff_not,
        ne_eq, Decidable.not_not] at hsame
      exact (ih hsame.2).trans hsame.1

/-- The height that is shown behind commands which keep the line factor. -/
theorem size_run (hkeeps : ∀ command ∈ commands, command.keepsFactor = true) :
    (display.run commands).size.y =
      if display.changesHeight commands then
        (display.run commands).current.height * display.lineFactor
      else
        display.size.y := by
  induction commands generalizing display with
  | nil => rfl
  | cons command commands ih =>
      rw [List.forall_mem_cons] at hkeeps
      obtain ⟨hfactor, -, hsize⟩ := lines_of_keepsFactor display hkeeps.1
      have hlater : ((display.apply command).run commands).size.y = _ := ih hkeeps.2
      change ((display.apply command).run commands).size.y = _
      rw [hlater, hfactor]
      -- if no later command changes the height, then the first one decides what is shown
      cases hchanges : (display.apply command).changesHeight commands with
      | true => simp [changesHeight, hchanges, run]
      | false =>
          have hheight := height_of_not_changesHeight hchanges
          change _ = if _ then ((display.apply command).run commands).current.height * _ else _
          rw [hheight, if_neg Bool.false_ne_true, hsize]
          simp only [changesHeight, hchanges, Bool.or_false, decide_eq_true_eq, ite_not]

/-- Commands that keep the line factor make the same visible height with every line factor. -/
theorem height_run (hheight : left.current.height = right.current.height)
    (hoffset : left.heightOffset = right.heightOffset)
    (hkeeps : ∀ command ∈ commands, command.keepsFactor = true) :
    (left.run commands).current.height = (right.run commands).current.height ∧
      left.changesHeight commands = right.changesHeight commands := by
  induction commands generalizing left right with
  | nil => exact ⟨hheight, rfl⟩
  | cons command commands ih =>
      rw [List.forall_mem_cons] at hkeeps
      have hnext : (left.apply command).current.height = (right.apply command).current.height := by
        cases command with
        | setLines y0 y1 =>
            rw [apply, apply, (setLines_lines left y0 y1).2.1, (setLines_lines right y0 y1).2.1,
              hoffset]
        | setPosition x y swapped => cases hkeeps.1
        | setMode word => cases hkeeps.1
        | commit => cases hkeeps.1
        | _ => exact hheight
      have hoffset' :
          (left.apply command).heightOffset = (right.apply command).heightOffset := by
        rw [(lines_of_keepsFactor left hkeeps.1).2.1, (lines_of_keepsFactor right hkeeps.1).2.1,
          hoffset]
      obtain ⟨hlast, hchanges⟩ := ih hnext hoffset' hkeeps.2
      refine ⟨hlast, ?_⟩
      simp only [changesHeight, hnext, hheight, hchanges]

/-- A mode word in front of commands that keep the line factor shows early exactly if it brings
another line factor, and the commands lead to a new visible height that is not empty. -/
theorem applied_ne_iff (display : Display) (word : UInt32)
    (hkeeps : ∀ command ∈ commands, command.keepsFactor = true) :
    (display.run (.setMode word :: commands)).applied ≠ (display.run commands).applied ↔
      (Mode.ofWord word).lineFactor ≠ display.lineFactor ∧
        display.changesHeight commands = true ∧
        (display.run commands).current.height ≠ 0 := by
  let staged := display.apply (.setMode word)
  have hcommit : .commit ∉ commands := fun hmem => Bool.false_ne_true (hkeeps _ hmem)
  obtain ⟨hheight, hchanges⟩ : (staged.run commands).current.height =
        (display.run commands).current.height ∧
      staged.changesHeight commands = display.changesHeight commands :=
    height_run rfl rfl hkeeps
  have hstagedSize : (staged.run commands).size.y = _ := size_run hkeeps
  have hplainSize : (display.run commands).size.y = _ := size_run hkeeps
  rw [hheight, hchanges] at hstagedSize
  have hsizes : (display.run (.setMode word :: commands)).applied =
      (display.run commands).applied ↔
        (staged.run commands).size.y = (display.run commands).size.y := by
    have hstaged := applied_run staged hcommit
    have hplain := applied_run display hcommit
    change (staged.run commands).applied = _ ↔ _
    constructor
    · exact congrArg fun applied : Applied => applied.size.y
    · intro hsame
      rw [hstaged, hplain, hsame]
      rfl
  rw [ne_eq, hsizes, hstagedSize, hplainSize]
  cases display.changesHeight commands with
  | false => simp [staged, apply, setMode, stageMode]
  | true =>
      have hfactor : staged.lineFactor = (Mode.ofWord word).lineFactor := rfl
      rw [if_pos rfl, if_pos rfl, hfactor]
      by_cases hempty : (display.run commands).current.height = 0
      · simp [hempty]
      · rw [Int.mul_eq_mul_left_iff hempty]
        simp [hempty]

end Display

/-! ## Every reachable display -/

namespace Gpu

/-- Between two commits, commands with mode words show what they show without them, apart from the
height.  They show the same height too if no mode word brings another line factor.  A mode word in
front of ranges of lines shows early exactly if it brings another line factor and the ranges lead to
a new visible height.  The next commit applies the mode that was staged last. -/
theorem applied_before_commit (settings : Settings) (pacer : Pacing.Pacer)
    (operations : List Operation) {commands : List Display.Command}
    (hstaged : .commit ∉ commands) :
    let display := ((create settings pacer).run operations).display
    let staged := display.run commands
    let plain := display.run (commands.filter (·.mode? = none))
    staged.applied = plain.applied.withLines staged.size.y ∧
      ((∀ word, .setMode word ∈ commands →
          (Display.Mode.ofWord word).lineFactor = display.lineFactor) →
        staged.applied = plain.applied) ∧
      (∀ word later, commands = .setMode word :: later →
        (∀ command ∈ later, command.keepsFactor = true) →
          (staged.applied ≠ plain.applied ↔
            (Display.Mode.ofWord word).lineFactor ≠ display.lineFactor ∧
              display.changesHeight later = true ∧ plain.current.height ≠ 0)) ∧
      staged.commit.applied =
        (Display.lastMode display.output.mode commands).applied staged.current.height := by
  intro display staged plain
  refine ⟨?rest, ?factor, ?early, ?commit⟩
  case rest =>
      have hplain : .commit ∉ commands.filter (·.mode? = none) := fun hmem =>
        hstaged (List.mem_filter.1 hmem).1
      rw [Display.applied_run display hstaged, Display.applied_run display hplain]
      rfl
  case factor =>
      intro hfactor
      have hsame := (Display.SameLines.refl display).run_without_modes hstaged hfactor
      exact hsame.applied
  case early =>
      rintro word later rfl hkeeps
      have hlater : later.filter (·.mode? = none) = later := by
        refine List.filter_eq_self.2 fun command hmem => ?_
        have hcommand := hkeeps command hmem
        cases command with
        | setMode word => cases hcommand
        | _ => rfl
      have hplain : plain = display.run later := congrArg display.run hlater
      rw [hplain]
      exact Display.applied_ne_iff display word hkeeps
  case commit =>
      have hlines := Display.keptByCommands_linesStaged.run settings pacer operations
      exact Display.applied_commit_run hlines commands

/-- A mode of 640 columns and 480 interlaced lines, in front of a range of 256 lines. -/
theorem applied_before_commit_doubled :
    let operations : List Operation := [.powerOn, .writeControl 0x03000000]
    let display := ((create {} (.create {} 1000000)).run operations).display
    let ranges : List Display.Command := [.setColumns 0x200 0xC00, .setLines 16 272]
    let staged := display.run (.setMode 0x27 :: ranges)
    let plain := display.run ((.setMode 0x27 :: ranges).filter (·.mode? = none))
    .commit ∉ (.setMode 0x27 :: ranges : List Display.Command) ∧
      (∀ command ∈ ranges, command.keepsFactor = true) ∧
      staged.applied = plain.applied.withLines staged.size.y ∧ staged.applied ≠ plain.applied ∧
      staged.commit.applied = (Display.Mode.ofWord 0x27).applied 256 := by
  intro operations display ranges staged plain
  have hstaged : .commit ∉ (.setMode 0x27 :: ranges : List Display.Command) := by decide
  have hkeeps : ∀ command ∈ ranges, command.keepsFactor = true := by decide
  obtain ⟨hrest, -, hearly, hcommit⟩ :=
    applied_before_commit {} (.create {} 1000000) operations hstaged
  refine ⟨hstaged, hkeeps, hrest, ?_, hcommit⟩
  exact (hearly 0x27 ranges rfl hkeeps).2 ⟨by decide, by decide, by decide⟩

/-- The lines of a mode word are shown with a range of lines that follows it, while its columns, its
color depth and its fields still wait.  A line factor that was staged in between, and replaced
before the commit, stays in the visible height if a position was divided by it. -/
theorem applied_early :
    let early := Display.initial.run [.setMode 0x37, .setLines 16 272]
    let plain := Display.initial.run [.setLines 16 272]
    let divided := Display.initial.run
      [.setMode 4, .setPosition 0 0x3F0 false, .setMode 0, .setLines 16 256]
    let undivided := Display.initial.run [.setPosition 0 0x3F0 false, .setLines 16 256]
    early.hasPending = true ∧ early.applied = ⟨⟨256, 512⟩, false, false⟩ ∧
      plain.applied = ⟨⟨256, 256⟩, false, false⟩ ∧
      early.commit.applied = ⟨⟨640, 512⟩, true, true⟩ ∧
      divided.applied = ⟨⟨256, 232⟩, false, false⟩ ∧
      undivided.applied = ⟨⟨256, 224⟩, false, false⟩ := by
  decide

end Gpu

end GpuCore
