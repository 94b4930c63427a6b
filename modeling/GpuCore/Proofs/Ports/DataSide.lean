import GpuCore.Proofs.Ports.Join

/-!
# Work on the data side

Whatever is written to the data channel, packets and pixels are taken in the same way beside any
control side.

Main results:

- `Gpu.Beside.execute`: packets.
- `Gpu.Beside.receive`: words.
- `Gpu.actsOnData_takeChunk`: chunks of words.
-/

namespace GpuCore.Gpu

namespace Beside

variable {log : Array Event} {data control whole : Gpu}

/-! ## Fields of the data side -/

/-- The log of the whole ends with what the data side told. -/
theorem emit (h : Beside log data control whole) (event : Event) :
    Beside log (data.emit event) control (whole.emit event) :=
  { h with
    events := by
      simp only [Gpu.emit, h.events, Array.append_push] }

/-- The whole keeps the pixels of the data side and the block addresses of the control side. -/
theorem withVram (h : Beside log data control whole) {vram vram' : Vram.Memory}
    (hvram : vram' = vram.withHistory control.vram.history) :
    Beside log { data with vram := vram } control { whole with vram := vram' } :=
  { h with vram := hvram }

/-- Status bits of the data side are changed there. -/
theorem withStatus (h : Beside log data control whole) (f : Status → Status)
    (hf : f (data.status.join control.status) = (f data.status).join control.status) :
    Beside log { data with status := f data.status } control
      { whole with status := f whole.status } :=
  { h with
    status := by
      rw [h.status, hf] }

/-- The drawing environment is kept in latches and display. -/
theorem withEnvironment (h : Beside log data control whole) {latches latches' : Latches}
    (f : Display → Display) (hlatches : latches' = latches)
    (hf : ∀ display : Display, f (display.withDrawingOf data.display) =
      display.withDrawingOf (f data.display)) :
    Beside log { data with latches := latches, display := f data.display } control
      { whole with latches := latches', display := f whole.display } :=
  { h with
    latches := hlatches
    display := by
      rw [h.display, hf] }

/-! ## Packets -/

/-- A function of the image that does not ask for block addresses. -/
theorem vram_congr {α : Type} (h : Beside log data control whole) (f : Vram.Memory → α)
    (hf : ∀ (memory : Vram.Memory) (history : Vram.AddressHistory),
      f (memory.withHistory history) = f memory) : f whole.vram = f data.vram := by
  rw [h.vram, hf]

/-- A fill paints the same area, since areas do not ask for block addresses. -/
theorem fill (h : Beside log data control whole) (command position size : UInt32) :
    Beside log (data.fill command position size) control (whole.fill command position size) := by
  have harea := h.vram_congr (Vram.Area.ofFillWords · position size) fun _ _ => rfl
  have hfilled (area : Vram.Area) (pixel : UInt16) : whole.vram.fillArea area pixel =
      (data.vram.fillArea area pixel).withHistory control.vram.history := by
    rw [h.vram, Vram.Memory.fillArea_withHistory]
  unfold Gpu.fill
  dsimp only at harea ⊢
  rw [harea]
  exact (h.withVram (hfilled _ _)).emit _

/-- A copy takes and puts the same pixels beside any control side. -/
theorem moveImage (h : Beside log data control whole) (source destination size : UInt32) :
    Beside log (data.moveImage source destination size) control
      (whole.moveImage source destination size) := by
  have harea := h.vram_congr (Vram.Area.ofTransferWords · source size) fun _ _ => rfl
  have hcorner := h.vram_congr (Vram.corner · destination) fun _ _ => rfl
  have hmoved (area : Vram.Area) (x y : Nat) : whole.vram.moveArea area x y =
      (data.vram.moveArea area x y).withHistory control.vram.history := by
    rw [h.vram, Vram.Memory.moveArea_withHistory]
  unfold Gpu.moveImage
  dsimp only at harea hcorner ⊢
  rw [harea, hcorner]
  split
  · exact h
  · exact (h.withVram (hmoved _ _ _)).emit _

/-- A transfer starts at the same pixel of the same area. -/
theorem start_eq (h : Beside log data control whole) (position size : UInt32) :
    Vram.Transfer.start whole.vram (.ofTransferWords whole.vram position size) =
      .start data.vram (.ofTransferWords data.vram position size) :=
  h.vram_congr
    (fun memory => Vram.Transfer.start memory (.ofTransferWords memory position size))
    fun _ _ => rfl

/-- A download begins with the bit that shows it, which is one of the data side. -/
theorem beginDownload (h : Beside log data control whole) (position size : UInt32) :
    Beside log (data.beginDownload position size) control (whole.beginDownload position size) := by
  have hshown := h.withStatus (·.set Status.Mask.readyForPixels)
    (Status.join_set_left _ _ (by decide))
  exact { hshown with download := h.start_eq position size }

/-- The draw mode is shown in bits of the data side. -/
theorem setDrawMode (h : Beside log data control whole) (word : UInt32) :
    Beside log (data.setDrawMode word) control (whole.setDrawMode word) := by
  let shown := Status.Mask.texturePage ||| Status.Mask.dither ||| Status.Mask.drawingAllowed
  have hshown := h.withStatus (·.replace shown word)
    (Status.join_replace_left _ _ (by decide) word)
  have hmode : Beside log
      { data with status := data.status.replace shown word, drawMode := .ofWord word } control
      { whole with status := whole.status.replace shown word, drawMode := .ofWord word } :=
    { hshown with drawMode := rfl }
  exact hmode.emit _

/-- The mask bits are shown in bits of the data side. -/
theorem setMaskBits (h : Beside log data control whole) (word : UInt32) :
    Beside log (data.setMaskBits word) control (whole.setMaskBits word) := by
  let shown := Status.Mask.maskDrawn ||| Status.Mask.maskEnabled
  have hshown := h.withStatus (·.replace shown ((word &&& 3) <<< 11))
    (Status.join_replace_left _ _ (by decide) _)
  exact hshown.emit _

/-- Corners and offset of drawing belong to the data side, although the display carries them. -/
theorem setEnvironment (h : Beside log data control whole) (index : Nat) (word : UInt32) :
    Beside log (data.setEnvironment index word) control (whole.setEnvironment index word) := by
  have hcorner : whole.areaCorner word = data.areaCorner word :=
    h.vram_congr (fun memory => (Word.field word 0 10, Word.field word 10 10 % memory.lines))
      fun _ _ => rfl
  unfold Gpu.setEnvironment
  split
  case h_1 => exact h.setDrawMode word
  case h_2 =>
      unfold Gpu.setTextureWindow
      rw [h.latches]
      exact (h.withEnvironment id rfl fun _ => rfl).emit _
  case h_3 =>
      unfold Gpu.setAreaTopLeft
      rw [hcorner, h.latches]
      exact (h.withEnvironment (·.setAreaTopLeft _ _) rfl fun _ => rfl).emit _
  case h_4 =>
      unfold Gpu.setAreaBottomRight
      rw [hcorner, h.latches]
      exact (h.withEnvironment (·.setAreaBottomRight _ _) rfl fun _ => rfl).emit _
  case h_5 =>
      let offset : Point := ⟨Word.signedField word 0 11, Word.signedField word 11 11⟩
      unfold Gpu.setDrawOffset
      rw [h.latches]
      exact (h.withEnvironment (·.setDrawOffset offset) rfl fun _ => rfl).emit _
  case h_6 => exact h.setMaskBits word
  case h_7 => exact h

/-- The side and the whole both drop a primitive, or both tell it. -/
theorem drawPrimitive (h : Beside log data control whole) (event? : Option Event) :
    Beside log (data.drawPrimitive event?) control (whole.drawPrimitive event?) := by
  unfold Gpu.drawPrimitive
  rw [h.skipping]
  split
  · exact h
  · cases event? with
    | none => exact h
    | some event => exact h.emit event

/-- What a packet asks for is done in the same way beside any control side. -/
theorem perform (h : Beside log data control whole) (family : Family) (words : List UInt32) :
    Beside log (data.perform family words) control (whole.perform family words) := by
  unfold Gpu.perform
  split
  case h_1 => exact h.fill _ _ _
  case h_2 => exact h.drawPrimitive _
  case h_3 => exact h.drawPrimitive _
  case h_4 => exact h.drawPrimitive _
  case h_5 => exact h.moveImage _ _ _
  case h_6 => exact { h with upload := h.start_eq _ _ }
  case h_7 => exact h.beginDownload _ _
  case h_8 => exact h.setEnvironment _ _
  case h_9 => exact h

/-- Packets are executed in the same way beside any control side. -/
theorem execute (h : Beside log data control whole) (packet : Packet) :
    Beside log (data.execute packet) control (whole.execute packet) := by
  have hperformed := h.perform (.ofOpcode packet.opcode) packet.words
  have hfixes := congrArg (·.fixes.contains .fakeBusy) hperformed.settings
  unfold Gpu.execute
  dsimp only at hfixes ⊢
  rw [hfixes]
  split
  · exact hperformed.withStatus (·.armBusy busyReadsAfterDrawing) rfl
  · exact hperformed

/-! ## Words -/

theorem withAssembler (h : Beside log data control whole) (assembler : Assembler) :
    Beside log { data with assembler := assembler } control
      { whole with assembler := assembler } :=
  { h with assembler := rfl }

/-- A command word goes into the same packet beside any control side. -/
theorem interpret (h : Beside log data control whole) (word : UInt32) :
    Beside log (data.interpret word) control (whole.interpret word) := by
  unfold Gpu.interpret
  rw [h.assembler]
  split
  · exact h.withAssembler _
  · exact (h.withAssembler _).execute _

/-- A word of pixels is stored in the same place, and the upload ends with the same word. -/
theorem storePixels (h : Beside log data control whole) (job : Vram.Job) (word : UInt32) :
    Beside log (data.storePixels job word) control (whole.storePixels job word) := by
  have hadvance := h.vram_congr job.advanceWord fun _ _ => rfl
  have hstored (upload : Vram.Transfer) : Beside log
      { data with vram := job.store data.vram word, upload := upload } control
      { whole with vram := job.store whole.vram word, upload := upload } :=
    { h with
      vram := by
        rw [h.vram, Vram.Memory.store_withHistory]
      upload := rfl }
  unfold Gpu.storePixels
  rw [hadvance]
  split
  · exact hstored _
  · exact (hstored _).emit _

/-- A word is received in the same way beside any control side. -/
theorem receive (h : Beside log data control whole) (word : UInt32) :
    Beside log (data.receive word) control (whole.receive word) := by
  have hdropped : Beside log { data with upload := {} } control { whole with upload := {} } :=
    { h with upload := rfl }
  unfold Gpu.receive
  rw [h.upload]
  split
  · split
    · exact h.storePixels _ word
    · exact hdropped.interpret word
  · exact h.interpret word

/-- Words that come one after the other are received in the same way beside any control side. -/
theorem receiveAll (h : Beside log data control whole) (words : List UInt32) :
    Beside log (data.receiveAll words) control (whole.receiveAll words) := by
  induction words generalizing data whole with
  | nil => exact h
  | cons word words ih => exact ih (h.receive word)

end Beside

/-- A chunk of words is taken in the same way beside any control side. -/
theorem actsOnData_takeChunk (words : List UInt32) : ActsOnData (·.takeChunk words) := by
  intro log data control whole h
  have hbusy := h.withStatus (·.unset Status.Mask.available)
    (Status.join_unset_left _ _ (by decide))
  exact (hbusy.receiveAll words).withStatus (·.set Status.Mask.available)
    (Status.join_set_left _ _ (by decide))

end GpuCore.Gpu
