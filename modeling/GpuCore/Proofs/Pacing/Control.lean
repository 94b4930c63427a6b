import GpuCore.Gpu.Freezing
import GpuCore.Proofs.Pacing.Equality

/-!
# Control words, periods and saved states at any pace

Control words set the pacer and the end of a period asks it, but nothing of what it says comes back
into the rest of the state.  Saved states do not hold it.

Main results:

- `Gpu.EqUpToPace.writeControl` and `Gpu.EqUpToPace.readStatus`.
- `Gpu.EqUpToPace.endPeriod`: the two periods may end in different ways.
- `Gpu.EqUpToPace.snapshot`, `restore` and `freeze`: states that are saved and taken over.
-/

namespace GpuCore.Gpu.EqUpToPace

variable {left right : Gpu}

/-! ## Control words and status reads -/

/-- A new rate concerns the pacer alone. -/
theorem updateRate_left (gpu : Gpu) : EqUpToPace gpu.updateRate gpu :=
  { refl gpu with }

/-- What a reset command sets does not depend on what was there before. -/
theorem resetCommands (h : EqUpToPace left right) :
    EqUpToPace left.resetCommands right.resetCommands :=
  { h with
    latches := rfl, status := rfl, display := rfl, assembler := rfl, upload := rfl,
    download := rfl, drawMode := rfl }

/-- What a full reset sets beyond that does not depend on it either. -/
theorem reset (h : EqUpToPace left right) : EqUpToPace left.reset right.reset :=
  { h.resetCommands with
    control := rfl
    dataWord := rfl
    statusReads := rfl
    vram := congrArg Vram.Memory.forgetHistory h.vram }

/-- Both states tell that the display moved, or neither. -/
theorem emitMoved (h : EqUpToPace left right) (moved : Bool) :
    EqUpToPace (left.emitMoved moved) (right.emitMoved moved) := by
  unfold Gpu.emitMoved
  split
  · exact h.emit .displayMoved
  · exact h

/-- The picture is switched in both states, whatever is held back in them. -/
theorem setDisplayEnabled (h : EqUpToPace left right) (disabled : Bool) :
    EqUpToPace (left.setDisplayEnabled disabled) (right.setDisplayEnabled disabled) :=
  h.withDisplay
    (h.display_congr (fun display => (display.setEnabled disabled {}).1) fun _ _ => rfl)
    (congrArg (·.assign Status.Mask.displayDisabled disabled) h.status)

/-- Both transfers of both states stream, or are suspended, as the direction word says. -/
theorem selectDirection (h : EqUpToPace left right) (direction : UInt32) :
    EqUpToPace (left.selectDirection direction) (right.selectDirection direction) :=
  { h with
    upload := congrArg ({ · with streaming := direction == 2 }) h.upload
    download := congrArg ({ · with streaming := direction == 3 }) h.download
    status := congrArg (·.replace Status.Mask.direction (direction <<< 29)) h.status }

/-- The position may set how many frames are held back, but neither its flag nor the rest of the
display comes from the hold. -/
theorem setDisplayPosition (h : EqUpToPace left right) (word : UInt32) :
    EqUpToPace (left.setDisplayPosition word) (right.setDisplayPosition word) := by
  obtain ⟨hmoved, hdisplay⟩ := Display.setPosition_congr h.display (Word.field word 0 10)
    (Word.field word 10 10) (right.settings.fixes.contains .swapFrontBack)
  unfold Gpu.setDisplayPosition
  rw [h.fixes]
  dsimp only
  rw [hmoved]
  exact (h.withDisplay hdisplay h.status).emitMoved _

/-- The vertical range is told in both states or in neither. -/
theorem setDisplayLines (h : EqUpToPace left right) (word : UInt32) :
    EqUpToPace (left.setDisplayLines word) (right.setDisplayLines word) := by
  obtain ⟨hchanged, hdisplay⟩ := Display.setLines_congr h.display (Word.field word 0 10)
    (Word.field word 10 10)
  unfold Gpu.setDisplayLines
  dsimp only
  rw [hchanged]
  exact (h.withDisplay hdisplay h.status).emitMoved _

/-- Whether the pacer is set to a new rate makes no difference, and the bits that show a mode do not
depend on the hold. -/
theorem setDisplayMode (h : EqUpToPace left right) (word : UInt32) :
    EqUpToPace (left.setDisplayMode word) (right.setDisplayMode word) := by
  have hshown : (left.display.stageMode word).showMode word left.status =
      (right.display.stageMode word).showMode word right.status := by
    rw [h.status]
    exact Display.eq_of_withoutHold
      (fun display => (display.stageMode word).showMode word right.status)
      (fun _ _ => rfl) h.display
  have hpaced (gpu : Gpu) : EqUpToPace (gpu.setDisplayMode word)
      { gpu with
        display := gpu.display.stageMode word
        status := (gpu.display.stageMode word).showMode word gpu.status } := by
    unfold Gpu.setDisplayMode
    dsimp only
    split
    · exact updateRate_left _
    · exact refl _
  have hstaged := h.withDisplay (h.display_congr (·.stageMode word) fun _ _ => rfl) hshown
  exact ((hpaced left).trans hstaged).trans (hpaced right).symm

/-- A query is answered from the latches, which the states share. -/
theorem answerQuery (h : EqUpToPace left right) (word : UInt32) :
    EqUpToPace (left.answerQuery word) (right.answerQuery word) := by
  have hanswer : left.queryAnswer? = right.queryAnswer? := by
    funext index
    unfold queryAnswer?
    rw [h.latches]
  exact { h with dataWord := by rw [Gpu.answerQuery, Gpu.answerQuery, hanswer, h.dataWord] }

/-- Whatever a control word asks for, it keeps states equal up to the pace. -/
theorem obey (h : EqUpToPace left right) (word : UInt32) :
    EqUpToPace (left.obey word) (right.obey word) := by
  unfold Gpu.obey
  split
  case h_1 => exact h.resetCommands
  case h_2 =>
      exact { h with
        assembler := rfl, upload := rfl, download := rfl
        status := congrArg (·.unset Status.Mask.readyForPixels) h.status }
  case h_3 => exact h.withStatus (congrArg (·.unset Status.Mask.interrupt) h.status)
  case h_4 => exact h.setDisplayEnabled _
  case h_5 => exact h.selectDirection _
  case h_6 => exact h.setDisplayPosition word
  case h_7 =>
      let columns (display : Display) :=
        display.setColumns (Word.field word 0 12) (Word.field word 12 12)
      exact (h.withDisplay (h.display_congr columns fun _ _ => rfl) h.status).emitMoved true
  case h_8 => exact h.setDisplayLines word
  case h_9 => exact h.setDisplayMode word
  case h_10 =>
      split
      · exact h.answerQuery word
      · exact h

/-- Keeping the word in its slot and obeying it keeps states equal up to the pace. -/
theorem writeControl (h : EqUpToPace left right) (word : UInt32) :
    EqUpToPace (left.writeControl word) (right.writeControl word) := by
  have hkept : EqUpToPace (left.keepControl word) (right.keepControl word) :=
    { h with control := by rw [keepControl, keepControl, h.control] }
  exact hkept.obey word

/-- A status read answers the same word in both states, with the same count of reads behind it. -/
theorem readStatus (h : EqUpToPace left right) :
    left.readStatus.1 = right.readStatus.1 ∧ EqUpToPace left.readStatus.2 right.readStatus.2 := by
  have hcounted : EqUpToPace left.countStatusRead right.countStatusRead := by
    unfold countStatusRead
    rw [h.fixes, h.statusReads]
    split
    · split
      · exact { h with statusReads := rfl }
      · exact { h with
          statusReads := rfl, status := congrArg (·.toggle Status.Mask.oddLines) h.status }
    · exact h
  have hstepped := congrArg Status.stepBusy hcounted.status
  exact ⟨congrArg Status.word hstepped, hcounted.withStatus hstepped⟩

/-! ## The end of a period -/

/-- A pending mode is committed in both states or in neither. -/
theorem applyMode (h : EqUpToPace left right) : EqUpToPace left.applyMode right.applyMode := by
  unfold Gpu.applyMode
  rw [Display.eq_of_withoutHold Display.hasPending (fun _ _ => rfl) h.display]
  split
  · have hcommitted := h.display_congr Display.commit fun _ _ => rfl
    exact (h.withDisplay hcommitted h.status).emit .displayMoved
  · exact h

/-- The field flips in both states or in neither. -/
theorem flipField (h : EqUpToPace left right) : EqUpToPace left.flipField right.flipField := by
  unfold Gpu.flipField
  rw [h.fixes, Display.eq_of_withoutHold Display.interlaced (fun _ _ => rfl) h.display]
  split
  · exact h.withStatus (congrArg (·.toggle Status.Mask.oddLines) h.status)
  · exact h

/-- Waiting and presenting leave everything to the pace. -/
theorem present_left (gpu : Gpu) (pause : UInt64) :
    EqUpToPace (gpu.awaitPeriod pause).present gpu := by
  have hwaited : EqUpToPace (gpu.awaitPeriod pause) gpu := { refl gpu with }
  unfold Gpu.present
  split
  · exact hwaited
  · split
    · exact { hwaited with display := rfl }
    · exact (emit_skippable _ rfl).trans hwaited

/-- The two periods may take any time, wait in any way and show their frames or not. -/
theorem endPeriod (h : EqUpToPace left right) (pause pause' : UInt64) :
    EqUpToPace (left.endPeriod pause) (right.endPeriod pause') := by
  have hpresented :=
    ((present_left _ pause).trans h.applyMode.flipField).trans (present_left _ pause').symm
  have hsettled := hpresented.display_congr ({ · with justInterlaced := false }) fun _ _ => rfl
  exact hpresented.withDisplay hsettled hpresented.status

/-! ## Saved states -/

/-- A saved state does not tell the pace. -/
theorem snapshot (h : EqUpToPace left right) : left.snapshot = right.snapshot := by
  simp only [Gpu.snapshot, record, h.isInitialized, h.status, h.control, h.vram]

/-- Registers are taken from the record alone. -/
theorem setRegisters (h : EqUpToPace left right) (record : Freeze.Record) :
    EqUpToPace (left.setRegisters record) (right.setRegisters record) :=
  { h with status := congrArg (·.setWord record.status) h.status, control := rfl }

/-- Control words that are replayed one after the other keep states equal up to the pace. -/
theorem replay (h : EqUpToPace left right) (control : Vector UInt32 controlSlots)
    (slots : List (Fin controlSlots)) :
    EqUpToPace (slots.foldl (replaySlot control) left)
      (slots.foldl (replaySlot control) right) := by
  induction slots generalizing left right with
  | nil => exact h
  | cons slot slots ih =>
      refine ih ?_
      unfold replaySlot
      dsimp only
      split
      · exact h.writeControl _
      · exact h

/-- Taking over a record keeps states equal up to the pace: pixels, replay, the pending mode and the
registers again. -/
theorem thaw (h : EqUpToPace left right) (record : Freeze.Record) :
    EqUpToPace (left.thaw record) (right.thaw record) := by
  have hset := h.setRegisters record
  have hloaded := hset.withVram (congrArg (·.load record.pixels) hset.vram)
  exact ((hloaded.replay record.control replayOrder).applyMode).setRegisters record

/-- A record is refused by both states with the same fault, or taken over by both. -/
theorem restore (h : EqUpToPace left right) (record : Freeze.Record) :
    (left.restore record).1 = (right.restore record).1 ∧
      EqUpToPace (left.restore record).2 (right.restore record).2 := by
  have hsize : left.vram.size = right.vram.size := congrArg _ h.vram
  refine h.ifInitialized _ ?_
  simp only [freezeSize, hsize]
  split
  · exact ⟨rfl, h⟩
  · split
    · exact ⟨rfl, h⟩
    · exact ⟨rfl, h.thaw record⟩

/-- A freeze request answers the same and leaves the same bytes, whatever the pace. -/
theorem freeze (h : EqUpToPace left right) (mode : FreezeMode) (buffer : Array UInt8) :
    (left.freeze mode buffer).1 = (right.freeze mode buffer).1 ∧
      (left.freeze mode buffer).2.1 = (right.freeze mode buffer).2.1 ∧
      EqUpToPace (left.freeze mode buffer).2.2 (right.freeze mode buffer).2.2 := by
  unfold Gpu.freeze
  cases mode with
  | save =>
      dsimp only [saveTo]
      rw [h.snapshot]
      split
      · exact ⟨rfl, rfl, h⟩
      · exact ⟨rfl, rfl, h⟩
  | load =>
      have hrestored :
          (left.restoreBytes buffer).1 = (right.restoreBytes buffer).1 ∧
            EqUpToPace (left.restoreBytes buffer).2 (right.restoreBytes buffer).2 := by
        unfold Gpu.restoreBytes
        rw [h.vram]
        split
        · exact h.restore _
        · exact ⟨rfl, h⟩
      obtain ⟨hresult, hafter⟩ := h.ifInitialized (restoreBytes · buffer) hrestored
      exact ⟨hresult, rfl, hafter⟩
  | info =>
      dsimp only
      split
      · exact ⟨rfl, rfl, { h with saveSlot := rfl }⟩
      · exact ⟨rfl, rfl, h⟩

end GpuCore.Gpu.EqUpToPace
