import GpuCore.Gpu.Freezing
import GpuCore.Proofs.Alike.Relation

/-!
# Control words on two processors

Control words keep two processors alike.  A reset word does more: it makes processors alike that
agree on little else than their images and control slots.

Main results:

- `Gpu.alike_resetCommands`: what a reset word takes to make two processors alike.
- `Gpu.AlikeSince.writeControl`: a control word keeps them alike.
- `Gpu.AlikeSince.replay` and `applyMode`: so does rebuilding a state from a record.
-/

namespace GpuCore.Gpu

/-! ## Resets -/

/-- A new rate follows from settings, rates and mode. -/
theorem timing_updateRate (gpu : Gpu) :
    gpu.updateRate.pacer.timing =
      .ofMode gpu.pacer.ticksPerSecond gpu.pacer.chipAccurate gpu.settings.pacing.customRate
        gpu.display.region gpu.display.pendingInterlaced :=
  rfl

/-- Processors of one setup and one display pace at one rate. -/
theorem timing_updateRate_congr {left right : Gpu} (hsetup : SameSetup left right)
    (hdisplay : left.display = right.display) :
    left.updateRate.pacer.timing = right.updateRate.pacer.timing := by
  rw [timing_updateRate, timing_updateRate, hsetup.settings, hsetup.ticksPerSecond,
    hsetup.chipAccurate, hdisplay]

/-- A reset leaves nothing of a processor but its setup, its image and its control slots. -/
theorem alike_resetCommands {left right : Gpu} (hsetup : SameSetup left right)
    (himage : left.vram.SameImage right.vram) (hcontrol : left.control = right.control) :
    Alike left.resetCommands right.resetCommands :=
  { hsetup with
    image := himage
    status := rfl
    display := rfl
    assembler := rfl
    upload := rfl
    download := rfl
    control := hcontrol
    latches := rfl
    drawMode := rfl
    timing := timing_updateRate_congr { hsetup with } rfl }

namespace AlikeSince

variable {leftLog rightLog : Array Event} {left right : Gpu}

/-! ## Commands -/

/-- The rate follows the display in both processors. -/
theorem updateRate (h : AlikeSince leftLog rightLog left right) :
    AlikeSince leftLog rightLog left.updateRate right.updateRate :=
  { h with timing := timing_updateRate_congr h.toSameSetup h.display }

/-- A reset command leaves both with the same power-on state. -/
theorem resetCommands (h : AlikeSince leftLog rightLog left right) :
    AlikeSince leftLog rightLog left.resetCommands right.resetCommands :=
  { alike_resetCommands h.toSameSetup h.image h.control with told := h.told }

/-- Both renderers hear that the display moved, or neither. -/
theorem emitMoved (h : AlikeSince leftLog rightLog left right) (moved : Bool) :
    AlikeSince leftLog rightLog (left.emitMoved moved) (right.emitMoved moved) := by
  unfold Gpu.emitMoved
  split
  · exact h.emit rfl
  · exact h

/-- The direction is selected in both, with the bits that show it. -/
theorem selectDirection (h : AlikeSince leftLog rightLog left right) (direction : UInt32) :
    AlikeSince leftLog rightLog (left.selectDirection direction)
      (right.selectDirection direction) :=
  { h with
    upload := congrArg ({ · with streaming := direction == 2 }) h.upload
    download := congrArg ({ · with streaming := direction == 3 }) h.download
    status := congrArg (·.replace Status.Mask.direction (direction <<< 29)) h.status }

/-- A mode that changes the rate does so on both processors. -/
theorem setDisplayMode (h : AlikeSince leftLog rightLog left right) (word : UInt32) :
    AlikeSince leftLog rightLog (left.setDisplayMode word) (right.setDisplayMode word) := by
  unfold Gpu.setDisplayMode
  rw [h.display, h.status]
  dsimp only
  split
  · exact (h.withDisplay rfl rfl).updateRate
  · exact h.withDisplay rfl rfl

/-- Both obey a control word in the same way. -/
theorem obey (h : AlikeSince leftLog rightLog left right) (word : UInt32) :
    AlikeSince leftLog rightLog (left.obey word) (right.obey word) := by
  have hfixes : left.settings.fixes = right.settings.fixes := congrArg Settings.fixes h.settings
  unfold Gpu.obey
  split
  case h_1 => exact h.resetCommands
  case h_2 =>
      exact { h with
        assembler := rfl, upload := rfl, download := rfl
        status := congrArg (·.unset Status.Mask.readyForPixels) h.status }
  case h_3 => exact h.withStatus (congrArg (·.unset Status.Mask.interrupt) h.status)
  case h_4 =>
      unfold Gpu.setDisplayEnabled
      rw [h.display, h.status]
      exact h.withDisplay rfl rfl
  case h_5 => exact h.selectDirection _
  case h_6 =>
      unfold Gpu.setDisplayPosition
      rw [h.display, hfixes]
      exact (h.withDisplay rfl h.status).emitMoved _
  case h_7 =>
      unfold Gpu.setDisplayColumns
      rw [h.display]
      exact (h.withDisplay rfl h.status).emitMoved true
  case h_8 =>
      unfold Gpu.setDisplayLines
      rw [h.display]
      exact (h.withDisplay rfl h.status).emitMoved _
  case h_9 => exact h.setDisplayMode word
  case h_10 =>
      split
      · exact { h with }
      · exact h

/-- Both keep a control word in its slot. -/
theorem keepControl (h : AlikeSince leftLog rightLog left right) (word : UInt32) :
    AlikeSince leftLog rightLog (left.keepControl word) (right.keepControl word) :=
  { h with control := by rw [Gpu.keepControl, Gpu.keepControl, h.control] }

/-- A control word leaves processors alike, and their renderers hear the same. -/
theorem writeControl (h : AlikeSince leftLog rightLog left right) (word : UInt32) :
    AlikeSince leftLog rightLog (left.writeControl word) (right.writeControl word) :=
  (h.keepControl word).obey word

/-! ## Rebuilding a state -/

/-- The registers of one record are taken over by both. -/
theorem setRegisters (h : AlikeSince leftLog rightLog left right) (record : Freeze.Record) :
    AlikeSince leftLog rightLog (left.setRegisters record) (right.setRegisters record) :=
  { h with status := congrArg (·.setWord record.status) h.status, control := rfl }

/-- A pending mode is applied in both or in neither. -/
theorem applyMode (h : AlikeSince leftLog rightLog left right) :
    AlikeSince leftLog rightLog left.applyMode right.applyMode := by
  unfold Gpu.applyMode
  rw [h.display]
  split
  · exact (h.withDisplay rfl h.status).emit rfl
  · exact h

/-- Slots one after the other, by induction on their list. -/
theorem replay (h : AlikeSince leftLog rightLog left right) (control : Vector UInt32 controlSlots)
    (slots : List (Fin controlSlots)) :
    AlikeSince leftLog rightLog (slots.foldl (replaySlot control) left)
      (slots.foldl (replaySlot control) right) := by
  induction slots generalizing left right with
  | nil => exact h
  | cons slot slots ih =>
      refine ih ?_
      unfold replaySlot
      dsimp only
      split
      · exact h.writeControl _
      · exact h

end AlikeSince

end GpuCore.Gpu
