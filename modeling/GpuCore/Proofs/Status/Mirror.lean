import GpuCore.Proofs.DataChannel.Invariant
import GpuCore.Proofs.Operation.Frame

/-!
# The status word as a mirror

The display mode, the picture switch and the drawing mode are held twice: as fields that the
processor works with, and as bits that programs read.  Part of the mode waits for the end of a
period while its bits change at once.  This module shows that the two never come apart, and that a
frame is presented with what the bits show at that moment.

Main definitions:

- `Gpu.Mirrored`: every bit of the status word agrees with the field that it shows.
- `Gpu.shownFrame`: the frame that status word and visible lines stand for.

Main results:

- `Gpu.inStep_apply`: no operation but restoring brings bits and fields apart.
- `Gpu.frames_endPeriod`: the frame that the end of a period presents.
- `Gpu.mirrored_run`: whatever is done to a new processor short of restoring, bits and fields
  agree, and every frame is the one that the bits stand for.
-/

namespace GpuCore

/-! ## Masked words -/

namespace Word

theorem flag_and (a b : UInt32) (index : Nat) :
    flag (a &&& b) index = (flag a index && flag b index) := by
  simp only [flag, UInt32.toNat_and, Nat.testBit_and]

/-- A mask keeps the fields that it covers. -/
theorem field_and_of_covers {mask : UInt32} {start width : Nat} (word : UInt32)
    (hcovers : ∀ i < width, flag mask (start + i) = true) :
    field (word &&& mask) start width = field word start width := by
  refine Nat.eq_of_testBit_eq fun i => ?_
  rw [testBit_field, testBit_field, flag_and]
  by_cases hi : i < width
  · rw [hcovers i hi, Bool.and_true]
  · simp [hi]

end Word

/-! ## The drawing mode -/

/-- The status bits that show the drawing mode, the eleven lowest ones. -/
def Status.Mask.drawMode : UInt32 :=
  texturePage ||| dither ||| drawingAllowed

/-- The part of a drawing mode that shows in the status register: all but the switch of textures
and the two flips. -/
def DrawMode.shown (mode : DrawMode) : DrawMode :=
  { mode with textureDisabled := false, flipX := false, flipY := false }

/-- What shows of a drawing mode is decoded from the eleven lowest bits. -/
theorem DrawMode.shown_ofWord (word : UInt32) :
    (ofWord word).shown = ofWord (word &&& Status.Mask.drawMode) := by
  have hflag (index : Nat) (hset : Word.flag Status.Mask.drawMode index = true) :
      Word.flag (word &&& Status.Mask.drawMode) index = Word.flag word index := by
    rw [Word.flag_and, hset, Bool.and_true]
  have hclear (index : Nat) (hbeyond : Word.flag Status.Mask.drawMode index = false) :
      Word.flag (word &&& Status.Mask.drawMode) index = false := by
    rw [Word.flag_and, hbeyond, Bool.and_false]
  simp (disch := decide) only [ofWord, shown, Word.field_and_of_covers, hflag, hclear]

/-! ## Visible lines -/

namespace Display

/-- The pending height is that of the visible lines, doubled where the mode says so. -/
def LinesStaged (display : Display) : Prop :=
  display.pendingSize.y = display.current.height * display.lineFactor

variable {display : Display}

/-- The display starts with the height of its lines. -/
theorem linesStaged_initial : initial.LinesStaged :=
  rfl

/-- Mode words stage the height again. -/
theorem linesStaged_stageMode (display : Display) (word : UInt32) :
    (display.stageMode word).LinesStaged :=
  rfl

/-- A position keeps the visible lines and the pending height. -/
theorem LinesStaged.setPosition (h : display.LinesStaged) (x y : Nat) (swapped : Bool) :
    (display.setPosition x y swapped).2.LinesStaged := by
  obtain ⟨_, _, _, _, _, _, -, hrest⟩ := display.setPosition_rest x y swapped
  rw [hrest]
  exact h

/-- A range of lines stages its height unless it is the height that there was. -/
theorem LinesStaged.setLines (h : display.LinesStaged) (y0 y1 : Nat) :
    (display.setLines y0 y1).2.LinesStaged := by
  obtain ⟨_, _, _, _, _, hrest⟩ := display.setLines_rest y0 y1
  rw [hrest]
  unfold LinesStaged at h ⊢
  dsimp only
  split
  · next hsame => rw [h, hsame]
  · rfl

/-- The drawing environment that a display carries has no part in the height. -/
theorem LinesStaged.of_withoutDrawing {before after : Display} (h : before.LinesStaged)
    (hsame : after.withoutDrawing = before.withoutDrawing) : after.LinesStaged := by
  have hbefore : before.withoutDrawing.LinesStaged := h
  rw [← hsame] at hbefore
  exact hbefore

end Display

/-! ## Bits and fields -/

namespace Gpu

/-- Every bit of the status word agrees with the field that it shows. -/
structure Mirrored (gpu : Gpu) : Prop where
  pal : gpu.status.any Status.Mask.pal = true ↔ gpu.display.region = .pal
  doubleHeight : gpu.status.any Status.Mask.doubleHeight = true ↔ gpu.display.lineFactor = 2
  rgb24 : gpu.status.any Status.Mask.rgb24 = gpu.display.pendingRgb24
  interlaced : gpu.status.any Status.Mask.interlaced = gpu.display.pendingInterlaced
  disabled : gpu.status.any Status.Mask.displayDisabled = gpu.display.current.disabled
  /-- The pending width is the entry of the table that the bits 16, 18 and 17 select. -/
  columns : gpu.display.pendingSize.x = Status.widthIn gpu.status.word
  lines : gpu.display.pendingSize.y = gpu.display.current.height * gpu.display.lineFactor
  drawMode : gpu.drawMode.shown = .ofWord (gpu.status.bits Status.Mask.drawMode)

/-- The frame that the status word and the visible lines stand for. -/
def shownFrame (gpu : Gpu) : Frame where
  position := gpu.display.current.position
  size :=
    { x := Status.widthIn gpu.status.word
      y := gpu.display.current.height *
        (if gpu.status.any Status.Mask.doubleHeight then 2 else 1) }
  rgb24 := gpu.status.any Status.Mask.rgb24
  interlaced := gpu.status.any Status.Mask.interlaced
  oddField := gpu.isOddField
  region := if gpu.status.any Status.Mask.pal then .pal else .ntsc

/-- The eleven lowest status bits show the drawing mode. -/
def ShowsDrawMode (gpu : Gpu) : Prop :=
  gpu.drawMode.shown = .ofWord (gpu.status.bits Status.Mask.drawMode)

/-- What every operation keeps: the status register shows the output and the drawing mode, and the
pending height is that of the visible lines. -/
structure InStep (gpu : Gpu) : Prop where
  output : gpu.status.shown = gpu.display.output
  lines : gpu.display.LinesStaged
  drawMode : gpu.ShowsDrawMode

end Gpu

/-- The width bits of a word say what the word says. -/
theorem Status.widthIn_and_widthBits (word : UInt32) :
    widthIn (word &&& Mask.widthBits) = widthIn word := by
  simp (disch := decide) only [widthIn, Word.field_and_of_covers]

namespace Gpu

variable {gpu : Gpu}

/-- The pending size is that of the frame which the status word stands for. -/
theorem InStep.pendingSize (h : gpu.InStep) : gpu.display.pendingSize = gpu.shownFrame.size := by
  have hmode := congrArg Display.Output.mode h.output
  have hwidth : gpu.display.pendingSize.x = Status.widthIn gpu.status.word := by
    rw [← Status.widthIn_and_widthBits]
    exact (congrArg Display.Mode.width hmode).symm
  have hfactor : (bif gpu.status.any Status.Mask.doubleHeight then (2 : Int) else 1) =
      gpu.display.lineFactor :=
    congrArg Display.Mode.lineFactor hmode
  have hlines : gpu.display.pendingSize.y = gpu.shownFrame.size.y := by
    rw [h.lines, ← hfactor, cond_eq_ite]
    rfl
  generalize gpu.display.pendingSize = pending at hwidth hlines
  obtain ⟨x, y⟩ := pending
  cases hwidth
  cases hlines
  rfl

/-- What is kept in step says that every bit agrees with its field. -/
theorem InStep.mirrored (h : gpu.InStep) : gpu.Mirrored := by
  have hmode := congrArg Display.Output.mode h.output
  have hregion : (bif gpu.status.any Status.Mask.pal then Region.pal else .ntsc) =
      gpu.display.region :=
    congrArg Display.Mode.region hmode
  have hfactor : (bif gpu.status.any Status.Mask.doubleHeight then (2 : Int) else 1) =
      gpu.display.lineFactor :=
    congrArg Display.Mode.lineFactor hmode
  refine ⟨?pal, ?doubleHeight, ?rgb24, ?interlaced, ?disabled, ?columns, h.lines, h.drawMode⟩
  case pal =>
      rw [← hregion]
      cases gpu.status.any Status.Mask.pal <;> decide
  case doubleHeight =>
      rw [← hfactor]
      cases gpu.status.any Status.Mask.doubleHeight <;> decide
  case rgb24 => exact congrArg Display.Mode.rgb24 hmode
  case interlaced => exact congrArg Display.Mode.interlaced hmode
  case disabled => exact congrArg Display.Output.disabled h.output
  case columns => exact congrArg Point.x h.pendingSize

/-! ## The drawing mode on the data channel -/

/-- The drawing mode is shown at power-on. -/
theorem showsDrawMode_powerOn :
    DrawMode.shown {} = .ofWord (({} : Status).bits Status.Mask.drawMode) := by
  decide

/-- The drawing mode and the bits that show it are all that matters. -/
theorem ShowsDrawMode.of_frame {before after : Gpu} (h : before.ShowsDrawMode)
    (hmode : after.drawMode = before.drawMode)
    (hbits : after.status.bits Status.Mask.drawMode = before.status.bits Status.Mask.drawMode) :
    after.ShowsDrawMode := by
  unfold ShowsDrawMode
  rw [hmode, hbits]
  exact h

/-- The drawing mode has nothing to do with pixels, latches, display and events. -/
theorem ShowsDrawMode.withRest (h : gpu.ShowsDrawMode) (vram : Vram.Memory) (latches : Latches)
    (display : Display) (events : Array Event) :
    ShowsDrawMode { gpu with
      vram := vram, latches := latches, display := display, events := events } :=
  h

/-- A command that sets the drawing mode shows it, and the other ones leave mode and bits alone. -/
theorem ShowsDrawMode.perform (h : gpu.ShowsDrawMode) (family : Family) (words : List UInt32) :
    (gpu.perform family words).ShowsDrawMode := by
  have hdraw (event? : Option Event) : (gpu.drawPrimitive event?).ShowsDrawMode := by
    unfold drawPrimitive
    split
    · exact h
    · cases event? <;> exact h
  unfold Gpu.perform
  split
  case h_1 => exact h.withRest _ _ _ _
  case h_2 => exact hdraw _
  case h_3 => exact hdraw _
  case h_4 => exact hdraw _
  case h_5 =>
      unfold moveImage
      dsimp only
      split
      · exact h
      · exact h.withRest _ _ _ _
  case h_6 => exact h
  case h_7 => exact h.of_frame rfl (Status.bits_set_of_disjoint gpu.status (by decide))
  case h_8 index word _ =>
      unfold setEnvironment
      split
      case h_1 =>
          have hbits : (gpu.setDrawMode word).status.bits Status.Mask.drawMode =
              word &&& Status.Mask.drawMode :=
            Status.bits_replace_self gpu.status word
          unfold ShowsDrawMode
          rw [hbits]
          exact DrawMode.shown_ofWord word
      case h_6 => exact h.of_frame rfl (Status.bits_replace_of_disjoint gpu.status _ (by decide))
      case h_7 => exact h
      all_goals exact h.withRest _ _ _ _
  case h_9 => exact h

/-- Words written to the data channel keep the drawing mode shown. -/
theorem keptOnPort_showsDrawMode : KeptOnPort ShowsDrawMode where
  collect _ h := h
  perform family words h := h.perform family words
  storePixels _ _ h := by
    unfold storePixels
    split <;> exact h
  dropUpload _ h := h
  showBusy hbits h := h.of_frame rfl (hbits _ (by decide))
  remember _ _ h := h

/-! ## Control words -/

/-- A reset puts mode and bits back together, and the other control words touch neither. -/
theorem ShowsDrawMode.obey (h : gpu.ShowsDrawMode) (word : UInt32) :
    (gpu.obey word).ShowsDrawMode := by
  refine obey_cases (motive := ShowsDrawMode) gpu word ?reset ?drop ?acknowledge ?enable ?direct
    ?position ?columns ?lines ?mode ?query ?ignore <;> intro _
  case reset => exact showsDrawMode_powerOn
  case drop => exact h.of_frame rfl (Status.bits_unset_of_disjoint gpu.status (by decide))
  case acknowledge => exact h.of_frame rfl (Status.bits_unset_of_disjoint gpu.status (by decide))
  case enable => exact h.of_frame rfl (Status.bits_assign_of_disjoint gpu.status _ (by decide))
  case direct => exact h.of_frame rfl (Status.bits_replace_of_disjoint gpu.status _ (by decide))
  case position =>
      unfold setDisplayPosition emitMoved
      dsimp only
      split <;> exact h
  case columns => exact h
  case lines =>
      unfold setDisplayLines emitMoved
      dsimp only
      split <;> exact h
  case mode =>
      have hmode : (gpu.setDisplayMode word).drawMode = gpu.drawMode := by
        unfold setDisplayMode
        dsimp only
        split <;> rfl
      refine h.of_frame hmode ?_
      rw [status_setDisplayMode]
      exact bits_showMode_of_disjoint _ _ _ (by decide)
  case query => exact h
  case ignore => exact h

/-- Every control word leaves the height staged, or stages it again. -/
theorem linesStaged_obey (h : gpu.display.LinesStaged) (word : UInt32) :
    (gpu.obey word).display.LinesStaged := by
  refine obey_cases (motive := fun after => after.display.LinesStaged) gpu word
    ?reset ?drop ?acknowledge ?enable ?direct ?position ?columns ?lines ?mode ?query ?ignore
    <;> intro _
  case reset => exact Display.linesStaged_initial
  case drop => exact h
  case acknowledge => exact h
  case enable => exact h
  case direct => exact h
  case position =>
      rw [setDisplayPosition, display_emitMoved]
      exact h.setPosition _ _ _
  case columns => exact h
  case lines =>
      rw [setDisplayLines, display_emitMoved]
      exact h.setLines _ _
  case mode =>
      rw [display_setDisplayMode]
      exact Display.linesStaged_stageMode _ _
  case query => exact h
  case ignore => exact h

/-- Control words change the display and the bits that show it together. -/
theorem InStep.writeControl (h : gpu.InStep) (word : UInt32) :
    (gpu.writeControl word).InStep := by
  have hkept : (gpu.keepControl word).InStep := ⟨h.output, h.lines, h.drawMode⟩
  exact ⟨shown_obey word hkept.output, linesStaged_obey hkept.lines word, hkept.drawMode.obey word⟩

/-! ## The end of a period -/

/-- Applying a mode commits it, or there is nothing to commit. -/
theorem display_applyMode (gpu : Gpu) :
    gpu.applyMode.display = if gpu.display.hasPending then gpu.display.commit else gpu.display := by
  unfold applyMode
  split <;> rfl

@[simp]
theorem display_flipField (gpu : Gpu) : gpu.flipField.display = gpu.display := by
  unfold flipField
  split <;> rfl

@[simp]
theorem events_flipField (gpu : Gpu) : gpu.flipField.events = gpu.events := by
  unfold flipField
  split <;> rfl

/-- Presenting changes the number of held frames and the log. -/
theorem present_rest (gpu : Gpu) :
    gpu.present = { gpu with
      display := { gpu.display with heldFrames := gpu.present.display.heldFrames },
      events := gpu.present.events } := by
  unfold present
  split
  · rfl
  · split <;> rfl

/-- A frame is presented unless it is skipped, switched off or held back. -/
theorem events_present (gpu : Gpu) :
    gpu.present.events =
      if gpu.skipping = false ∧ gpu.display.current.disabled = false ∧
          gpu.display.heldFrames = 0 then
        gpu.events.push (.frame (gpu.display.frame gpu.isOddField))
      else
        gpu.events := by
  unfold present
  by_cases hshown : gpu.skipping = false ∧ gpu.display.current.disabled = false
  · rw [hshown.1, hshown.2]
    cases hheld : gpu.display.heldFrames with
    | zero => rfl
    | succ held => simp
  · have hhidden : (gpu.skipping || gpu.display.current.disabled) = true := by
      rwa [← Bool.or_eq_false_iff, Bool.not_eq_false] at hshown
    rw [if_pos hhidden, if_neg fun hall => hshown ⟨hall.1, hall.2.1⟩]

/-- A period that is shown counts down the frames that are held back. -/
theorem display_present (gpu : Gpu) :
    gpu.present.display = { gpu.display with
      heldFrames :=
        if gpu.skipping = false ∧ gpu.display.current.disabled = false then
          gpu.display.heldFrames - 1
        else
          gpu.display.heldFrames } := by
  unfold present
  by_cases hshown : gpu.skipping = false ∧ gpu.display.current.disabled = false
  · rw [if_pos hshown, hshown.1, hshown.2]
    cases hheld : gpu.display.heldFrames with
    | zero =>
        -- the difference leaves the counter at zero
        show gpu.display = { gpu.display with heldFrames := 0 }
        rw [← hheld]
    | succ held => simp
  · have hhidden : (gpu.skipping || gpu.display.current.disabled) = true := by
      rwa [← Bool.or_eq_false_iff, Bool.not_eq_false] at hshown
    rw [if_pos hhidden, if_neg hshown]

/-- The period behind the end of a period is skipped as the pacer said while it was waited for. -/
theorem skipping_endPeriod (gpu : Gpu) (pause : UInt64) :
    (gpu.endPeriod pause).skipping = (gpu.applyMode.flipField.awaitPeriod pause).skipping := by
  unfold endPeriod
  dsimp only
  rw [present_rest]

/-- The display behind the end of a period. -/
theorem display_endPeriod (gpu : Gpu) (pause : UInt64) :
    (gpu.endPeriod pause).display = { gpu.applyMode.display with
      heldFrames :=
        if (gpu.endPeriod pause).skipping = false ∧
            gpu.applyMode.display.current.disabled = false then
          gpu.applyMode.display.heldFrames - 1
        else
          gpu.applyMode.display.heldFrames
      justInterlaced := false } := by
  have hwaited : (gpu.applyMode.flipField.awaitPeriod pause).display = gpu.applyMode.display :=
    display_flipField gpu.applyMode
  rw [skipping_endPeriod]
  unfold endPeriod
  dsimp only
  rw [display_present, hwaited]

/-- The end of a period changes neither the visible lines nor what is pending. -/
theorem linesStaged_endPeriod (h : gpu.display.LinesStaged) (pause : UInt64) :
    (gpu.endPeriod pause).display.LinesStaged := by
  rw [display_endPeriod, display_applyMode]
  split
  · exact h
  · exact h

/-! ## Every operation -/

/-- A processor that is created shows what it is set to. -/
theorem inStep_create (settings : Settings) (pacer : Pacing.Pacer) :
    (create settings pacer).InStep where
  output := Status.shown_powerOn
  lines := Display.linesStaged_initial
  drawMode := showsDrawMode_powerOn

/-- A reset by the host puts bits and fields back together. -/
theorem inStep_reset (gpu : Gpu) : gpu.reset.InStep where
  output := Status.shown_powerOn
  lines := Display.linesStaged_initial
  drawMode := showsDrawMode_powerOn

/-- What leaves output and slots alone keeps the output shown. -/
theorem InStep.quiet {after : Gpu} (h : gpu.InStep) (hquiet : QuietFrame gpu after)
    (hlines : after.display.LinesStaged) (hmode : after.ShowsDrawMode) : after.InStep where
  output := hquiet.shown.trans (h.output.trans hquiet.output.symm)
  lines := hlines
  drawMode := hmode

/-- Reading from the data channel touches none of the bits. -/
theorem InStep.readFrame {after : Gpu} (h : gpu.InStep)
    (hread : ReadFrame Status.Mask.reading gpu after) : after.InStep := by
  refine h.quiet hread.quiet ?lines ?mode
  case lines =>
      rw [hread.rest]
      exact h.lines
  case mode =>
      refine h.drawMode.of_frame ?_ (hread.status _ (by decide))
      rw [hread.rest]

/-- No operation but restoring brings bits and fields apart. -/
theorem inStep_apply (h : gpu.InStep) (operation : Operation)
    (hlive : operation.restores = false) : (gpu.apply operation).InStep := by
  have hquiet (hwrites : operation.writesControl = false) :=
    quietFrame_apply gpu operation hwrites hlive
  cases operation with
  | powerOn => exact inStep_reset _
  | powerOff => exact h.quiet (hquiet rfl) h.lines h.drawMode
  | reset => exact inStep_reset gpu
  | configure settings => exact h.quiet (hquiet rfl) h.lines h.drawMode
  | writeData words =>
      have hdisplay := (dataFrame_writeData gpu words).display
      exact h.quiet (hquiet rfl) (h.lines.of_withoutDrawing hdisplay)
        (keptOnPort_showsDrawMode.writeData words h.drawMode)
  | writeControl word => exact h.writeControl word
  | readInto slots =>
      rw [apply, state_readInto]
      exact h.readFrame (readFrame_readData gpu slots.length)
  | readWord =>
      rw [apply, state_readWord]
      exact h.readFrame (readFrame_readData gpu 1)
  | readStatus =>
      refine h.quiet (hquiet rfl) ?lines (h.drawMode.of_frame ?mode ?bits)
      case lines =>
          rw [apply, readStatus_rest]
          exact h.lines
      case mode =>
          rw [apply, readStatus_rest]
      case bits => exact bits_readStatus_of_disjoint gpu (by decide)
  | endPeriod pause =>
      have hframe := periodFrame_endPeriod gpu pause
      refine h.quiet (hquiet rfl) (linesStaged_endPeriod h.lines pause)
        (h.drawMode.of_frame ?mode ?bits)
      case mode =>
          rw [apply, hframe.rest]
      case bits => exact hframe.status _ (by decide)
  | followChain memory address =>
      have hdisplay := (dataFrame_followChain gpu memory address).display
      exact h.quiet (hquiet rfl) (h.lines.of_withoutDrawing hdisplay)
        (keptOnPort_showsDrawMode.followChain memory address h.drawMode)
  | freeze mode buffer =>
      cases mode with
      | load => contradiction
      | save =>
          rw [apply, freeze_save_rest]
          exact h
      | info =>
          rw [apply, freeze_info_rest]
          exact ⟨h.output, h.lines, h.drawMode⟩
  | restore record => contradiction
  | adjustPace adjustment => exact h.quiet (hquiet rfl) h.lines h.drawMode

/-- Every run without restores keeps register and display in step. -/
theorem inStep_run (h : gpu.InStep) {operations : List Operation}
    (hlive : ∀ operation ∈ operations, operation.restores = false) :
    (gpu.run operations).InStep := by
  induction operations generalizing gpu with
  | nil => exact h
  | cons operation operations ih =>
      rw [List.forall_mem_cons] at hlive
      rw [run_cons]
      exact ih (inStep_apply h operation hlive.1) hlive.2

/-! ## Presented frames -/

/-- Nothing is pending once a mode was applied. -/
theorem hasPending_applyMode (gpu : Gpu) : gpu.applyMode.display.hasPending = false := by
  unfold applyMode
  split
  · simp [emit, Display.hasPending, Display.commit, Display.updateCorners]
  · next hnone => simpa using hnone

/-- Without a pending mode the display presents what the status word stands for. -/
theorem InStep.frame_eq_shownFrame (h : gpu.InStep)
    (hsettled : gpu.display.hasPending = false) :
    gpu.display.frame gpu.isOddField = gpu.shownFrame := by
  simp only [Display.hasPending, decide_not, Bool.or_eq_false_iff, Bool.not_eq_false',
    decide_eq_true_eq, bne_eq_false_iff_eq] at hsettled
  obtain ⟨⟨hsize, hrgb24⟩, hinterlaced⟩ := hsettled
  have hmirrored := h.mirrored
  have hregion : gpu.shownFrame.region = gpu.display.region := by
    have hmode := congrArg Display.Output.mode h.output
    refine Eq.trans ?_ (congrArg Display.Mode.region hmode)
    simp only [Status.shown, shownFrame, cond_eq_ite]
  rw [Display.frame, ← hsize, ← hrgb24, ← hinterlaced, ← hmirrored.rgb24, ← hmirrored.interlaced,
    h.pendingSize, ← hregion]
  rfl

/-- What is done before the wait leaves the log of frames alone. -/
theorem frames_applyMode (gpu : Gpu) :
    gpu.applyMode.events.filter Event.isFrame = gpu.events.filter Event.isFrame := by
  unfold applyMode
  split
  · rw [emit, Array.filter_push, if_neg (by decide)]
  · rfl

/-- The end of a period presents a frame exactly if the coming period is not skipped, the picture
is on and no frame is held back.  It is that of the display behind the applied mode. -/
theorem presented_endPeriod (gpu : Gpu) (pause : UInt64) :
    (gpu.endPeriod pause).events.filter Event.isFrame =
      if (gpu.endPeriod pause).skipping = false ∧ gpu.display.current.disabled = false ∧
          gpu.display.heldFrames = 0 then
        (gpu.events.filter Event.isFrame).push
          (.frame (gpu.applyMode.display.frame (gpu.endPeriod pause).isOddField))
      else
        gpu.events.filter Event.isFrame := by
  let waited := gpu.applyMode.flipField.awaitPeriod pause
  have hdisplay : waited.display = gpu.applyMode.display := display_flipField gpu.applyMode
  have hevents : waited.events.filter Event.isFrame = gpu.events.filter Event.isFrame := by
    have hflipped : waited.events = gpu.applyMode.events := events_flipField gpu.applyMode
    rw [hflipped, frames_applyMode]
  have happlied : gpu.applyMode.display.current.disabled = gpu.display.current.disabled ∧
      gpu.applyMode.display.heldFrames = gpu.display.heldFrames := by
    rw [display_applyMode]
    split <;> exact ⟨rfl, rfl⟩
  have hodd : (gpu.endPeriod pause).isOddField = waited.isOddField := by
    change waited.present.isOddField = waited.isOddField
    rw [present_rest]
    rfl
  have hpresented : (gpu.endPeriod pause).events = waited.present.events := rfl
  rw [hpresented, events_present, skipping_endPeriod, hodd, hdisplay, happlied.1, happlied.2]
  split
  · rw [Array.filter_push, hevents]
    exact if_pos rfl
  · exact hevents

/-- If every bit agrees with its field, then the presented frame is the one that the status word
stands for. -/
theorem frames_endPeriod (h : gpu.InStep) (pause : UInt64) :
    (gpu.endPeriod pause).events.filter Event.isFrame =
      if (gpu.endPeriod pause).skipping = false ∧ gpu.display.current.disabled = false ∧
          gpu.display.heldFrames = 0 then
        (gpu.events.filter Event.isFrame).push (.frame (gpu.endPeriod pause).shownFrame)
      else
        gpu.events.filter Event.isFrame := by
  have hframe : gpu.applyMode.display.frame (gpu.endPeriod pause).isOddField =
      (gpu.endPeriod pause).shownFrame := by
    have hsettled : (gpu.endPeriod pause).display.hasPending = false := by
      rw [display_endPeriod]
      exact hasPending_applyMode gpu
    have hstep : (gpu.endPeriod pause).InStep := inStep_apply h (.endPeriod pause) rfl
    rw [← hstep.frame_eq_shownFrame hsettled, display_endPeriod]
    rfl
  rw [presented_endPeriod, hframe]

/-! ## Every history -/

/-- Whatever is done to a new processor short of restoring, every bit of the status word agrees with
the field that it shows, and the end of a period presents a frame exactly if the coming period is
not skipped, the picture is on and no frame is held back.  The frame is then the one that the bits
stand for at that moment. -/
theorem mirrored_run (settings : Settings) (pacer : Pacing.Pacer) (operations : List Operation)
    (hlive : ∀ operation ∈ operations, operation.restores = false) :
    let gpu := (create settings pacer).run operations
    gpu.Mirrored ∧
      ∀ pause, (gpu.endPeriod pause).events.filter Event.isFrame =
        if (gpu.endPeriod pause).skipping = false ∧ gpu.display.current.disabled = false ∧
            gpu.display.heldFrames = 0 then
          (gpu.events.filter Event.isFrame).push (.frame (gpu.endPeriod pause).shownFrame)
        else
          gpu.events.filter Event.isFrame := by
  intro gpu
  have hstep : gpu.InStep := inStep_run (inStep_create settings pacer) hlive
  exact ⟨hstep.mirrored, frames_endPeriod hstep⟩

/-- A picture of 640 columns and 480 interlaced lines, a drawing mode that does not show as a whole,
and a range of lines, over the end of three periods. -/
theorem mirrored_run_interlaced :
    let operations : List Operation :=
      [.powerOn, .writeControl 0x03000000, .writeControl 0x0800002F, .writeData [0xE1003E15],
        .endPeriod 0, .writeControl 0x07040010, .endPeriod 0, .readStatus, .endPeriod 0]
    let gpu := (create {} (.create {} 1000000)).run operations
    (∀ operation ∈ operations, operation.restores = false) ∧
      gpu.Mirrored ∧
      ∀ pause, (gpu.endPeriod pause).events.filter Event.isFrame =
        if (gpu.endPeriod pause).skipping = false ∧ gpu.display.current.disabled = false ∧
            gpu.display.heldFrames = 0 then
          (gpu.events.filter Event.isFrame).push (.frame (gpu.endPeriod pause).shownFrame)
        else
          gpu.events.filter Event.isFrame := by
  intro operations gpu
  have hlive : ∀ operation ∈ operations, operation.restores = false := by decide
  exact ⟨hlive, mirrored_run {} (.create {} 1000000) operations hlive⟩

end Gpu

end GpuCore
