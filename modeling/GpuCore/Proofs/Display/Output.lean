import GpuCore.Proofs.Control.Frame
import GpuCore.Proofs.DataChannel.Frame

/-!
# The output of the display

A display mode word sets region, lines, width, color depth and interlacing at once, and another
command switches the picture on and off.  The status register shows the same settings in bits of
its own.

Main definitions:

- `Display.Mode` and `Display.Output`: the settings of a mode word, and these with the switch.
- `Display.output` and `Status.shown`: the output of a display, and the one that a status register
  shows.
- `Display.Output.obey`: what a control word does to the output.

Main results:

- `Gpu.output_obey`: control words act on the display as they act on its output.
- `Gpu.shown_obey`: a status register that shows the output goes on doing so.
-/

namespace GpuCore

/-! ## Modes and outputs -/

namespace Display

/-- What a display mode word sets. -/
structure Mode where
  region : Region
  lineFactor : Int
  width : Int
  rgb24 : Bool
  interlaced : Bool
deriving DecidableEq, Repr

/-- The mode of a mode word. -/
def Mode.ofWord (word : UInt32) : Mode where
  region := if Word.flag word 3 then .pal else .ntsc
  lineFactor := if Word.flag word 2 then 2 else 1
  width := modeWidth word
  rgb24 := Word.flag word 4
  interlaced := Word.flag word 5

/-- A mode, and whether the picture is switched off. -/
structure Output where
  mode : Mode
  disabled : Bool
deriving DecidableEq, Repr

/-- The output that a display is set to, whether committed or not. -/
def output (display : Display) : Output where
  mode :=
    { region := display.region
      lineFactor := display.lineFactor
      width := display.pendingSize.x
      rgb24 := display.pendingRgb24
      interlaced := display.pendingInterlaced }
  disabled := display.current.disabled

/-- The output at power-on. -/
def Output.initial : Output :=
  Display.initial.output

/-- What a control word does to the output. -/
def Output.obey (output : Output) (word : UInt32) : Output :=
  match Word.field word 24 8 with
  | 0x00 => .initial
  | 0x03 => { output with disabled := Word.flag word 0 }
  | 0x08 => { output with mode := .ofWord word }
  | _ => output

/-! ## Display commands -/

@[simp]
theorem output_stageMode (display : Display) (word : UInt32) :
    (display.stageMode word).output = { display.output with mode := .ofWord word } := by
  simp only [output, stageMode, Mode.ofWord]

/-- What a position changes: where both generations are, the height offset, and the numbers of held
frames and of seeds. -/
theorem setPosition_rest (display : Display) (x y : Nat) (swapped : Bool) :
    ∃ position corner position' corner' held seeds, held ≤ display.heldFrames ∧
      (display.setPosition x y swapped).2 = { display with
        current := { display.current with position := position, corner := corner }
        previous := { display.previous with position := position', corner := corner' }
        heldFrames := held
        heightOffset := (decodePosition display.lineFactor x y).2
        seedsLeft := seeds } := by
  have hshift (shifted : Display) (position : Point) :
      ∃ place place', shifted.shiftPosition position swapped = { shifted with
        current := { shifted.current with position := place }
        previous := { shifted.previous with position := place' } } := by
    cases swapped <;> exact ⟨_, _, rfl⟩
  unfold setPosition
  dsimp only
  split
  · exact ⟨_, _, _, _, _, _, Nat.le_refl _, rfl⟩
  · obtain ⟨place, place', hplaces⟩ := hshift
      { display with heightOffset := (decodePosition display.lineFactor x y).2 }
      (decodePosition display.lineFactor x y).1
    rw [hplaces]
    split
    · exact ⟨_, _, _, _, _, _, Nat.le_refl _, rfl⟩
    · split
      · exact ⟨_, _, _, _, _, _, Nat.sub_le _ _, rfl⟩
      · exact ⟨_, _, _, _, _, _, Nat.le_refl _, rfl⟩

/-- What a range of lines changes: range, visible height and corner of both generations, and both
sizes if the height is a new one. -/
theorem setLines_rest (display : Display) (y0 y1 : Nat) :
    let height := (y1 : Int) - y0 + display.heightOffset
    ∃ range range' corner corner' old, (display.setLines y0 y1).2 = { display with
      current := { display.current with range := range, height := height, corner := corner }
      previous := { display.previous with range := range', height := old, corner := corner' }
      size.y := if display.current.height = height then display.size.y
        else height * display.lineFactor
      pendingSize.y := if display.current.height = height then display.pendingSize.y
        else height * display.lineFactor } := by
  unfold setLines
  dsimp only
  split <;> exact ⟨_, _, _, _, _, rfl⟩

@[simp]
theorem output_setPosition (display : Display) (x y : Nat) (swapped : Bool) :
    (display.setPosition x y swapped).2.output = display.output := by
  obtain ⟨_, _, _, _, _, _, -, hrest⟩ := display.setPosition_rest x y swapped
  rw [hrest]
  rfl

@[simp]
theorem output_setLines (display : Display) (y0 y1 : Nat) :
    (display.setLines y0 y1).2.output = display.output := by
  obtain ⟨_, _, _, _, _, hrest⟩ := display.setLines_rest y0 y1
  rw [hrest]
  rfl

@[simp]
theorem output_commit (display : Display) : display.commit.output = display.output :=
  rfl

/-- The output does not depend on the drawing environment that the display carries. -/
theorem output_withoutDrawing (display : Display) :
    display.withoutDrawing.output = display.output :=
  rfl

end Display

/-! ## The status register -/

namespace Status

/-- The bits that show the output. -/
def Mask.output : UInt32 :=
  displayDisabled ||| interlaced ||| rgb24 ||| pal ||| doubleHeight ||| widthBits

/-- The width that the bits 16, 18 and 17 of a word stand for. -/
def widthIn (word : UInt32) : Int :=
  displayWidths.get
    ⟨Word.field word 16 1 * 4 + Word.field word 17 2, by
      have hhigh : Word.field word 16 1 < 2 := Word.field_lt word 16 1
      have hlow : Word.field word 17 2 < 4 := Word.field_lt word 17 2
      omega⟩

/-- The output that a status register shows. -/
def shown (status : Status) : Display.Output where
  mode :=
    { region := bif status.any Mask.pal then .pal else .ntsc
      lineFactor := bif status.any Mask.doubleHeight then 2 else 1
      width := widthIn (status.bits Mask.widthBits)
      rgb24 := status.any Mask.rgb24
      interlaced := status.any Mask.interlaced }
  disabled := status.any Mask.displayDisabled

/-- The status register at power-on shows the output at power-on. -/
theorem shown_powerOn : ({} : Status).shown = .initial := by
  decide

/-- A change of other bits does not show. -/
theorem shown_of_frame {changed : UInt32} {before after : Status}
    (hother : Mask.output &&& changed = 0)
    (hframe : ∀ mask, mask &&& changed = 0 → after.bits mask = before.bits mask) :
    after.shown = before.shown := by
  rw [UInt32.and_comm] at hother
  simp only [Mask.output, and_or_eq_zero_iff] at hother
  obtain ⟨⟨⟨⟨⟨hdisabled, hinterlaced⟩, hrgb24⟩, hpal⟩, hheight⟩, hwidth⟩ := hother
  have hbits {mask : UInt32} (hmask : changed &&& mask = 0) :
      after.bits mask = before.bits mask :=
    hframe mask (by rwa [UInt32.and_comm])
  simp only [shown, any, hbits hdisabled, hbits hinterlaced, hbits hrgb24,
    hbits hpal, hbits hheight, hbits hwidth]

/-- What the register shows is in its word, and not in the busy reads. -/
theorem shown_of_word {before after : Status} (hword : after.word = before.word) :
    after.shown = before.shown := by
  simp only [shown, any, bits, hword]

/-- A group that was set or cleared as a whole shows which. -/
theorem any_assign_self (status : Status) {mask : UInt32} (enabled : Bool) (hmask : mask ≠ 0) :
    (status.assign mask enabled).any mask = enabled := by
  cases enabled with
  | true => simpa [any, assign] using hmask
  | false => simp [any, assign]

/-- Assigning other bits leaves a flag as it is. -/
theorem any_assign_of_disjoint (status : Status) {mask changed : UInt32} (enabled : Bool)
    (hdisjoint : mask &&& changed = 0) :
    (status.assign changed enabled).any mask = status.any mask := by
  rw [any, any, bits_assign_of_disjoint status enabled hdisjoint]

/-- Replacing other bits leaves a flag as it is. -/
theorem any_replace_of_disjoint (status : Status) {mask changed : UInt32} (value : UInt32)
    (hdisjoint : mask &&& changed = 0) :
    (status.replace changed value).any mask = status.any mask := by
  rw [any, any, bits_replace_of_disjoint status value hdisjoint]

/-- The width bits of a mode word, moved to their places in the status word. -/
def widthWord (word : UInt32) : UInt32 :=
  ((word &&& 0x03) <<< 17) ||| ((word &&& 0x40) <<< 10)

/-- Bit 16 of the status word is bit 6 of the mode word. -/
theorem field_widthWord_high (word : UInt32) :
    Word.field (widthWord word &&& Mask.widthBits) 16 1 = Word.field word 6 1 := by
  refine Nat.eq_of_testBit_eq fun i => ?_
  rw [Word.testBit_field, Word.testBit_field]
  match i with
  | 0 => simp [Word.flag_eq_getLsbD, widthWord, Mask.widthBits]
  | i + 1 => simp

/-- The bits 17 and 18 of the status word are the bits 0 and 1 of the mode word. -/
theorem field_widthWord_low (word : UInt32) :
    Word.field (widthWord word &&& Mask.widthBits) 17 2 = Word.field word 0 2 := by
  refine Nat.eq_of_testBit_eq fun i => ?_
  rw [Word.testBit_field, Word.testBit_field]
  match i with
  | 0 => simp [Word.flag_eq_getLsbD, widthWord, Mask.widthBits]
  | 1 => simp [Word.flag_eq_getLsbD, widthWord, Mask.widthBits]
  | i + 2 =>
      have hbeyond : ¬ i + 2 < 2 := by omega
      simp only [hbeyond, decide_false, Bool.false_and]

/-- The width bits show the width of the mode word. -/
theorem widthIn_widthWord (word : UInt32) :
    widthIn (widthWord word &&& Mask.widthBits) = Display.modeWidth word := by
  simp only [widthIn, Display.modeWidth, field_widthWord_high, field_widthWord_low]

end Status

namespace Display

/-- What the groups of the status word show after a mode word. -/
theorem any_showMode (display : Display) (word : UInt32) (status : Status) :
    let shown := display.showMode word status
    shown.any Status.Mask.pal = decide (display.region = .pal) ∧
      shown.any Status.Mask.doubleHeight = decide (display.lineFactor = 2) ∧
      shown.any Status.Mask.rgb24 = display.pendingRgb24 ∧
      shown.any Status.Mask.interlaced = display.pendingInterlaced ∧
      shown.any Status.Mask.displayDisabled = status.any Status.Mask.displayDisabled := by
  simp (disch := decide) only [showMode, Status.any_assign_self, Status.any_assign_of_disjoint,
    Status.any_replace_of_disjoint, and_self]

/-- The bits of the width are those of the mode word. -/
theorem bits_showMode_width (display : Display) (word : UInt32) (status : Status) :
    (display.showMode word status).bits Status.Mask.widthBits =
      Status.widthWord word &&& Status.Mask.widthBits := by
  simp (disch := decide) only [showMode, Status.bits_assign_of_disjoint]
  exact Status.bits_replace_self _ _

/-- A mode word is shown as it was decoded. -/
theorem shown_showMode (display : Display) (word : UInt32) (status : Status) :
    ((display.stageMode word).showMode word status).shown =
      { status.shown with mode := .ofWord word } := by
  obtain ⟨hpal, hheight, hrgb24, hinterlaced, hdisabled⟩ :=
    any_showMode (display.stageMode word) word status
  have hregion : (bif decide ((display.stageMode word).region = .pal) then Region.pal else .ntsc) =
      (Mode.ofWord word).region := by
    simp only [stageMode, Mode.ofWord]
    cases Word.flag word 3 <;> rfl
  have hfactor : (bif decide ((display.stageMode word).lineFactor = 2) then (2 : Int) else 1) =
      (Mode.ofWord word).lineFactor := by
    simp only [stageMode, Mode.ofWord]
    cases Word.flag word 2 <;> rfl
  simp only [Status.shown, hpal, hheight, hrgb24, hinterlaced, hdisabled, hregion, hfactor,
    bits_showMode_width, Status.widthIn_widthWord]
  rfl

/-- A switched picture is shown as switched. -/
theorem shown_setEnabled (display : Display) (disabled : Bool) (status : Status) :
    (display.setEnabled disabled status).2.shown = { status.shown with disabled := disabled } := by
  have hdisabled : (status.assign Status.Mask.displayDisabled disabled).any
      Status.Mask.displayDisabled = disabled :=
    Status.any_assign_self status disabled (by decide)
  simp (disch := decide) only [Status.shown, setEnabled, hdisabled, Status.any_assign_of_disjoint,
    Status.bits_assign_of_disjoint]

end Display

/-! ## Control words -/

namespace Display.Output

variable (output : Output) {word : UInt32}

theorem obey_of_reset (hreset : Word.field word 24 8 = 0) : output.obey word = .initial := by
  simp only [obey, hreset]

theorem obey_of_enable (henable : Word.field word 24 8 = 3) :
    output.obey word = { output with disabled := Word.flag word 0 } := by
  simp only [obey, henable]

theorem obey_of_mode (hmode : Word.field word 24 8 = 8) :
    output.obey word = { output with mode := .ofWord word } := by
  simp only [obey, hmode]

theorem obey_of_other (hreset : Word.field word 24 8 ≠ 0) (henable : Word.field word 24 8 ≠ 3)
    (hmode : Word.field word 24 8 ≠ 8) : output.obey word = output := by
  unfold obey
  split
  case h_1 h => exact absurd h hreset
  case h_2 h => exact absurd h henable
  case h_3 h => exact absurd h hmode
  case h_4 => rfl

end Display.Output

namespace Gpu

@[simp]
theorem display_emitMoved (gpu : Gpu) (moved : Bool) :
    (gpu.emitMoved moved).display = gpu.display := by
  unfold emitMoved
  split <;> rfl

/-- Control words act on the display as they act on its output. -/
theorem output_obey (gpu : Gpu) (word : UInt32) :
    (gpu.obey word).display.output = gpu.display.output.obey word := by
  have hother {command : Nat} (hword : Word.field word 24 8 = command) (hreset : command ≠ 0)
      (henable : command ≠ 3) (hmode : command ≠ 8) :
      gpu.display.output = gpu.display.output.obey word := by
    subst hword
    exact (Display.Output.obey_of_other _ hreset henable hmode).symm
  refine obey_cases (motive := fun after =>
      after.display.output = gpu.display.output.obey word) gpu word
    ?reset ?drop ?acknowledge ?enable ?direct ?position ?columns ?lines ?mode ?query ?ignore
    <;> intro hword
  case reset => exact (Display.Output.obey_of_reset _ hword).symm
  case drop => exact hother hword (by decide) (by decide) (by decide)
  case acknowledge => exact hother hword (by decide) (by decide) (by decide)
  case enable =>
      rw [Display.Output.obey_of_enable _ hword]
      rfl
  case direct => exact hother hword (by decide) (by decide) (by decide)
  case position =>
      rw [setDisplayPosition, display_emitMoved, Display.output_setPosition]
      exact hother hword (by decide) (by decide) (by decide)
  case columns => exact hother hword (by decide) (by decide) (by decide)
  case lines =>
      rw [setDisplayLines, display_emitMoved, Display.output_setLines]
      exact hother hword (by decide) (by decide) (by decide)
  case mode =>
      rw [display_setDisplayMode, Display.output_stageMode, Display.Output.obey_of_mode _ hword]
  case query => exact hother rfl (by omega) (by omega) (by omega)
  case ignore => exact hother rfl (by omega) (by omega) (by omega)

/-- A status register that shows the output goes on doing so. -/
theorem shown_obey {gpu : Gpu} (word : UInt32) (hshown : gpu.status.shown = gpu.display.output) :
    (gpu.obey word).status.shown = (gpu.obey word).display.output := by
  refine obey_cases (motive := fun after => after.status.shown = after.display.output) gpu word
    ?reset ?drop ?acknowledge ?enable ?direct ?position ?columns ?lines ?mode ?query ?ignore
    <;> intro _
  case reset => exact Status.shown_powerOn
  case drop =>
      refine Eq.trans ?_ hshown
      exact Status.shown_of_frame (by decide) fun mask hmask =>
        Status.bits_unset_of_disjoint gpu.status hmask
  case acknowledge =>
      refine Eq.trans ?_ hshown
      exact Status.shown_of_frame (by decide) fun mask hmask =>
        Status.bits_unset_of_disjoint gpu.status hmask
  case enable =>
      have hstatus := Display.shown_setEnabled gpu.display (Word.flag word 0) gpu.status
      rw [hshown] at hstatus
      exact hstatus
  case direct =>
      refine Eq.trans ?_ hshown
      exact Status.shown_of_frame (by decide) fun mask hmask =>
        Status.bits_replace_of_disjoint gpu.status _ hmask
  case position =>
      rw [setDisplayPosition, status_emitMoved, display_emitMoved, Display.output_setPosition]
      exact hshown
  case columns => exact hshown
  case lines =>
      rw [setDisplayLines, status_emitMoved, display_emitMoved, Display.output_setLines]
      exact hshown
  case mode =>
      rw [status_setDisplayMode, display_setDisplayMode, Display.shown_showMode,
        Display.output_stageMode, hshown]
  case query => exact hshown
  case ignore => exact hshown

end Gpu

end GpuCore
