import GpuCore.Gpu.Control
import GpuCore.Proofs.Control.Frame
import GpuCore.Proofs.Ports.Join

/-!
# Work on the control side

Control words that set the display, acknowledge the interrupt or mean nothing are obeyed in the same
way below any data side.  The others reach into the data side: they reset it, drop its transfers,
select its direction, or ask for its latches.

Main definitions:

- `Gpu.sparesData`: control words that stay at their side.

Main results:

- `Display.setPosition_withDrawingOf` and `Display.setLines_withDrawingOf`: the display commands do
  not ask for the drawing environment.
- `Gpu.actsOnControl_writeControl`: control words.
-/

namespace GpuCore

/-! ## The display -/

namespace Display

variable (display source : Display)

/-- A new position does not ask for the drawing environment. -/
theorem setPosition_withDrawingOf (x y : Nat) (swapped : Bool) :
    (display.withDrawingOf source).setPosition x y swapped =
      ((display.setPosition x y swapped).1,
        (display.setPosition x y swapped).2.withDrawingOf source) := by
  cases hseeds : display.seedsLeft with
  | succ seeds => simp [setPosition, withDrawingOf, updateCorners, hseeds]
  | zero =>
      -- Which of the two positions is the new one depends on the swap.
      cases swapped with
      | false =>
          by_cases hmoved :
              (decodePosition display.lineFactor x y).1 = display.current.position <;>
            cases hlaced : display.pendingInterlaced <;>
            simp [setPosition, shiftPosition, withDrawingOf, updateCorners, hseeds, hmoved, hlaced]
      | true =>
          by_cases hmoved :
              display.previous.position = (decodePosition display.lineFactor x y).1 <;>
            cases hlaced : display.pendingInterlaced <;>
            simp [setPosition, shiftPosition, withDrawingOf, updateCorners, hseeds, hmoved, hlaced]

/-- A vertical range does not ask for the drawing environment. -/
theorem setLines_withDrawingOf (y0 y1 : Nat) :
    (display.withDrawingOf source).setLines y0 y1 =
      ((display.setLines y0 y1).1, (display.setLines y0 y1).2.withDrawingOf source) := by
  by_cases hsame : display.current.height = (y1 : Int) - y0 + display.heightOffset
  · simp [setLines, withDrawingOf, hsame]
  · simp [setLines, withDrawingOf, hsame, updateCorners]

/-- A display mode does not ask for the drawing environment. -/
theorem stageMode_withDrawingOf (word : UInt32) :
    (display.withDrawingOf source).stageMode word =
      (display.stageMode word).withDrawingOf source := by
  cases hlaced : Word.flag word 5 <;> cases hpending : display.pendingInterlaced <;>
    simp [stageMode, withDrawingOf, hlaced, hpending]

/-- The bits that show a mode do not depend on the drawing environment, and all of them belong to
the control side. -/
theorem showMode_join (word : UInt32) (data control : Status) :
    (display.withDrawingOf source).showMode word (data.join control) =
      data.join (display.showMode word control) := by
  unfold showMode
  rw [Status.join_replace_right _ _ (by decide), Status.join_assign_right _ _ (by decide),
    Status.join_assign_right _ _ (by decide), Status.join_assign_right _ _ (by decide),
    Status.join_assign_right _ _ (by decide)]
  rfl

end Display

namespace Gpu

/-- Control words that neither reset nor drop nor select a direction nor ask for a latch. -/
def sparesData (word : UInt32) : Bool :=
  let command := Word.field word 24 8
  command = 0x02 || command = 0x03 || (0x05 ≤ command && command ≤ 0x0F) || 0x20 ≤ command

namespace Below

variable {log : Array Event} {data control whole : Gpu}

/-! ## Fields of the control side -/

theorem emitMoved (h : Below log data control whole) (moved : Bool) :
    Below log data (control.emitMoved moved) (whole.emitMoved moved) := by
  unfold Gpu.emitMoved
  split
  · exact { h with
      events := by
        simp only [Gpu.emit, h.events, Array.append_push] }
  · exact h

/-- The whole shows the display of the control side with the drawing environment of the data
side. -/
theorem withDisplay (h : Below log data control whole) {display display' : Display}
    (hdisplay : display' = display.withDrawingOf data.display) :
    Below log data { control with display := display } { whole with display := display' } :=
  { h with display := hdisplay }

/-- The whole shows the status bits of either side. -/
theorem withStatus (h : Below log data control whole) {status status' : Status}
    (hstatus : status' = data.status.join status) :
    Below log data { control with status := status } { whole with status := status' } :=
  { h with status := hstatus }

/-! ## Control words -/

/-- Control slots belong to the control side. -/
theorem keepControl (h : Below log data control whole) (word : UInt32) :
    Below log data (control.keepControl word) (whole.keepControl word) :=
  { h with
    slots := by
      rw [Gpu.keepControl, Gpu.keepControl, h.slots] }

/-- The interrupt bit is one of the control side. -/
theorem acknowledge (h : Below log data control whole) :
    Below log data { control with status := control.status.unset Status.Mask.interrupt }
      { whole with status := whole.status.unset Status.Mask.interrupt } :=
  h.withStatus (by rw [h.status, Status.join_unset_right _ _ (by decide)])

/-- Switching the picture is work of the control side, down to the bit that shows it. -/
theorem setDisplayEnabled (h : Below log data control whole) (disabled : Bool) :
    Below log data (control.setDisplayEnabled disabled) (whole.setDisplayEnabled disabled) := by
  have hshown : Below log data
      { control with status := control.status.assign Status.Mask.displayDisabled disabled }
      { whole with status := whole.status.assign Status.Mask.displayDisabled disabled } :=
    h.withStatus (by rw [h.status, Status.join_assign_right _ _ (by decide)])
  have hdisplay : (whole.display.setEnabled disabled {}).1 =
      (control.display.setEnabled disabled {}).1.withDrawingOf data.display := by
    rw [h.display]
    rfl
  exact hshown.withDisplay hdisplay

/-- A display position is set at the control side, and told with the same flag. -/
theorem setDisplayPosition (h : Below log data control whole) (word : UInt32) :
    Below log data (control.setDisplayPosition word) (whole.setDisplayPosition word) := by
  have hsettings : whole.settings = control.settings := h.settings.trans h.settings_control.symm
  have hposition (x y : Nat) :
      whole.display.setPosition x y (whole.settings.fixes.contains .swapFrontBack) =
        (control.display.setPosition x y (control.settings.fixes.contains .swapFrontBack)).map
          id (·.withDrawingOf data.display) := by
    rw [h.display, hsettings, Display.setPosition_withDrawingOf]
    rfl
  unfold Gpu.setDisplayPosition
  rw [hposition]
  exact (h.withDisplay rfl).emitMoved _

/-- A horizontal range is set at the control side. -/
theorem setDisplayColumns (h : Below log data control whole) (word : UInt32) :
    Below log data (control.setDisplayColumns word) (whole.setDisplayColumns word) := by
  have hcolumns (x0 x1 : Nat) : whole.display.setColumns x0 x1 =
      (control.display.setColumns x0 x1).withDrawingOf data.display := by
    rw [h.display]
    rfl
  exact (h.withDisplay (hcolumns _ _)).emitMoved true

/-- A vertical range is set at the control side, and told with the same flag. -/
theorem setDisplayLines (h : Below log data control whole) (word : UInt32) :
    Below log data (control.setDisplayLines word) (whole.setDisplayLines word) := by
  have hlines (y0 y1 : Nat) : whole.display.setLines y0 y1 =
      (control.display.setLines y0 y1).map id (·.withDrawingOf data.display) := by
    rw [h.display, Display.setLines_withDrawingOf]
    rfl
  unfold Gpu.setDisplayLines
  rw [hlines]
  exact (h.withDisplay rfl).emitMoved _

theorem updateRate (h : Below log data control whole) :
    Below log data control.updateRate whole.updateRate := by
  have hsettings : whole.settings = control.settings := h.settings.trans h.settings_control.symm
  exact { h with
    pacer := by
      simp only [Gpu.updateRate, h.pacer, hsettings, h.display]
      rfl }

/-- A display mode is set at the control side, with the rate that follows from it and the bits that
show it. -/
theorem setDisplayMode (h : Below log data control whole) (word : UInt32) :
    Below log data (control.setDisplayMode word) (whole.setDisplayMode word) := by
  have hstaged : whole.display.stageMode word =
      (control.display.stageMode word).withDrawingOf data.display := by
    rw [h.display, Display.stageMode_withDrawingOf]
  have hshown : (whole.display.stageMode word).showMode word whole.status =
      data.status.join ((control.display.stageMode word).showMode word control.status) := by
    rw [hstaged, h.status, Display.showMode_join]
  have hmode := (h.withDisplay hstaged).withStatus hshown
  have hchanged : (whole.display.setMode word whole.status).1 =
      (control.display.setMode word control.status).1 := by
    rw [h.display]
    simp only [Display.setMode, Display.stageMode_withDrawingOf]
    rfl
  unfold Gpu.setDisplayMode
  simp only [hchanged]
  split
  · exact hmode.updateRate
  · exact hmode

/-- A control word that spares the data channel is obeyed in the same way above any data side. -/
theorem obey (h : Below log data control whole) {word : UInt32} (hspares : sparesData word = true) :
    Below log data (control.obey word) (whole.obey word) := by
  unfold Gpu.obey
  split
  case h_1 hcommand => simp [sparesData, hcommand] at hspares
  case h_2 hcommand => simp [sparesData, hcommand] at hspares
  case h_3 => exact h.acknowledge
  case h_4 => exact h.setDisplayEnabled _
  case h_5 hcommand => simp [sparesData, hcommand] at hspares
  case h_6 => exact h.setDisplayPosition word
  case h_7 => exact h.setDisplayColumns word
  case h_8 => exact h.setDisplayLines word
  case h_9 => exact h.setDisplayMode word
  case h_10 =>
      have hquery : ¬ Word.field word 24 8 / 16 = 1 := by
        simp only [sparesData, Bool.or_eq_true, Bool.and_eq_true, decide_eq_true_eq] at hspares
        omega
      rw [if_neg hquery, if_neg hquery]
      exact h

end Below

/-- A control word that spares the data side is obeyed in the same way below any data side. -/
theorem actsOnControl_writeControl {word : UInt32} (hspares : sparesData word = true) :
    ActsOnControl (·.writeControl word) :=
  fun _ _ _ _ h => (h.keepControl word).obey hspares

end Gpu

end GpuCore
