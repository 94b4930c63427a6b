import GpuCore.Gpu.DataChannel
import GpuCore.Proofs.Alike.Relation

/-!
# Data words on two processors

Whatever is written to the data channel of two processors that agree, they agree afterwards, and
both renderers were told the same.

Main results:

- `Gpu.AlikeSince.execute` and `Gpu.AlikeSince.receive`: one packet and one word.
- `Gpu.AlikeSince.writeData`: a chunk of words, which both processors accept.
-/

namespace GpuCore.Gpu.AlikeSince

variable {leftLog rightLog : Array Event} {left right : Gpu}

/-! ## Packets -/

/-- The same area is filled in both images, and both renderers hear of it. -/
theorem fill (h : AlikeSince leftLog rightLog left right) (command position size : UInt32) :
    AlikeSince leftLog rightLog (left.fill command position size)
      (right.fill command position size) := by
  unfold Gpu.fill
  rw [h.image.shape.ofFillWords_eq]
  exact (h.withImage (h.image.fillArea _ _)).emit rfl

/-- The same pixels are copied in both images. -/
theorem moveImage (h : AlikeSince leftLog rightLog left right)
    (source destination size : UInt32) :
    AlikeSince leftLog rightLog (left.moveImage source destination size)
      (right.moveImage source destination size) := by
  unfold Gpu.moveImage
  rw [h.image.shape.ofTransferWords_eq, h.image.shape.corner_eq]
  dsimp only
  split
  · exact h
  · exact (h.withImage (h.image.moveArea _ _ _)).emit rfl

/-- The drawing environment is set alike in both, and told. -/
theorem setEnvironment (h : AlikeSince leftLog rightLog left right) (index : Nat)
    (word : UInt32) :
    AlikeSince leftLog rightLog (left.setEnvironment index word)
      (right.setEnvironment index word) := by
  have hcorner : left.areaCorner word = right.areaCorner word := by
    rw [areaCorner, areaCorner, h.image.shape.lines_eq]
  unfold Gpu.setEnvironment
  split
  case h_1 =>
      have hmode (shown : UInt32) : AlikeSince leftLog rightLog
          { left with status := left.status.replace shown word, drawMode := .ofWord word }
          { right with status := right.status.replace shown word, drawMode := .ofWord word } :=
        { h with status := congrArg (·.replace shown word) h.status, drawMode := rfl }
      exact (hmode _).emit rfl
  case h_2 =>
      unfold Gpu.setTextureWindow
      rw [h.latches]
      exact (h.withEnvironment rfl h.display).emit rfl
  case h_3 =>
      unfold Gpu.setAreaTopLeft
      rw [hcorner, h.latches, h.display]
      exact (h.withEnvironment rfl rfl).emit rfl
  case h_4 =>
      unfold Gpu.setAreaBottomRight
      rw [hcorner, h.latches, h.display]
      exact (h.withEnvironment rfl rfl).emit rfl
  case h_5 =>
      unfold Gpu.setDrawOffset
      rw [h.latches, h.display]
      exact (h.withEnvironment rfl rfl).emit rfl
  case h_6 =>
      unfold Gpu.setMaskBits
      rw [h.status]
      exact (h.withStatus rfl).emit rfl
  case h_7 => exact h

/-- What a packet does, apart from keeping the processor busy. -/
theorem perform (h : AlikeSince leftLog rightLog left right) (family : Family)
    (words : List UInt32) :
    AlikeSince leftLog rightLog (left.perform family words) (right.perform family words) := by
  have hprimitive {α : Type} (event : α → Event)
      (hevent : ∀ value, (event value).isPrimitive = true) (decoded? : Option α) :
      AlikeSince leftLog rightLog (left.drawPrimitive (decoded?.map event))
        (right.drawPrimitive (decoded?.map event)) := by
    refine h.drawPrimitive fun drawn hdrawn => ?_
    obtain ⟨value, _, rfl⟩ := Option.map_eq_some_iff.1 hdrawn
    exact hevent value
  unfold Gpu.perform
  split
  case h_1 => exact h.fill _ _ _
  case h_2 => exact hprimitive .polygon (fun _ => rfl) _
  case h_3 => exact hprimitive .line (fun _ => rfl) _
  case h_4 => exact hprimitive .sprite (fun _ => rfl) _
  case h_5 => exact h.moveImage _ _ _
  case h_6 => exact { h with upload := (h.image.shape.start_eq _ _).symm }
  case h_7 =>
      exact { h with
        download := (h.image.shape.start_eq _ _).symm
        status := congrArg (·.set Status.Mask.readyForPixels) h.status }
  case h_8 => exact h.setEnvironment _ _
  case h_9 => exact h

/-- A packet leaves processors alike, and their renderers hear the same. -/
theorem execute (h : AlikeSince leftLog rightLog left right) (packet : Packet) :
    AlikeSince leftLog rightLog (left.execute packet) (right.execute packet) := by
  have hperformed := h.perform (.ofOpcode packet.opcode) packet.words
  unfold Gpu.execute
  dsimp only
  rw [congrArg Settings.fixes hperformed.settings]
  split
  · exact hperformed.withStatus (congrArg (·.armBusy busyReadsAfterDrawing) hperformed.status)
  · exact hperformed

/-! ## Words -/

theorem withAssembler (h : AlikeSince leftLog rightLog left right) (assembler : Assembler) :
    AlikeSince leftLog rightLog { left with assembler := assembler }
      { right with assembler := assembler } :=
  { h with assembler := rfl }

theorem withUpload (h : AlikeSince leftLog rightLog left right) (upload : Vram.Transfer) :
    AlikeSince leftLog rightLog { left with upload := upload } { right with upload := upload } :=
  { h with upload := rfl }

/-- A command word goes into the same packet of both processors. -/
theorem interpret (h : AlikeSince leftLog rightLog left right) (word : UInt32) :
    AlikeSince leftLog rightLog (left.interpret word) (right.interpret word) := by
  unfold Gpu.interpret
  rw [h.assembler]
  split
  · exact h.withAssembler _
  · exact (h.withAssembler _).execute _

/-- The pixels of a word go to the same place of both images. -/
theorem storePixels (h : AlikeSince leftLog rightLog left right) (job : Vram.Job)
    (word : UInt32) :
    AlikeSince leftLog rightLog (left.storePixels job word) (right.storePixels job word) := by
  have hstored := h.withImage (h.image.store job word)
  unfold Gpu.storePixels
  rw [h.image.shape.advanceWord_eq]
  split
  · exact hstored.withUpload _
  · exact (hstored.withUpload _).emit rfl

/-- A word brings pixels to both processors or is part of a command of both. -/
theorem receive (h : AlikeSince leftLog rightLog left right) (word : UInt32) :
    AlikeSince leftLog rightLog (left.receive word) (right.receive word) := by
  unfold Gpu.receive
  rw [h.upload]
  split
  · split
    · exact h.storePixels _ word
    · exact (h.withUpload {}).interpret word
  · exact h.interpret word

/-- Words one after the other, by induction on their list. -/
theorem receiveAll (h : AlikeSince leftLog rightLog left right) (words : List UInt32) :
    AlikeSince leftLog rightLog (left.receiveAll words) (right.receiveAll words) := by
  induction words generalizing left right with
  | nil => exact h
  | cons word words ih => exact ih (h.receive word)

/-- A chunk leaves processors alike, and their renderers hear the same. -/
theorem takeChunk (h : AlikeSince leftLog rightLog left right) (words : List UInt32) :
    AlikeSince leftLog rightLog (left.takeChunk words) (right.takeChunk words) := by
  have hbusy := h.withStatus (congrArg (·.unset Status.Mask.available) h.status)
  have hworked := hbusy.receiveAll words
  exact hworked.withStatus (congrArg (·.set Status.Mask.available) hworked.status)

/-- Both processors have video memory and accept the words. -/
theorem writeData (h : AlikeSince leftLog rightLog left right) (words : List UInt32) :
    (left.writeData words).1 = (right.writeData words).1 ∧
      AlikeSince leftLog rightLog (left.writeData words).2 (right.writeData words).2 := by
  have hleft : left.isInitialized = true := h.image.allocated
  have hright : right.isInitialized = true := h.image.allocated_right
  unfold Gpu.writeData ifInitialized
  rw [if_pos hleft, if_pos hright]
  exact ⟨rfl, h.takeChunk words⟩

end GpuCore.Gpu.AlikeSince
