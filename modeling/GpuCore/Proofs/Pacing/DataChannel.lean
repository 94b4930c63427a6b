import GpuCore.Gpu.Chain
import GpuCore.Proofs.Pacing.Equality

/-!
# The data channel at any pace

Packets, pixels and chains of blocks keep two states equal up to the pace.  The only packets that
skipping suppresses are primitives, which change nothing but the log.

Main results:

- `Gpu.EqUpToPace.execute` and `Gpu.EqUpToPace.receive`: one packet and one word.
- `Gpu.EqUpToPace.writeData`, `readData` and `followChain`: the operations on the data channel,
  which also answer the same in both states.
-/

namespace GpuCore.Gpu.EqUpToPace

variable {left right : Gpu}

/-! ## Packets -/

/-- A primitive is drawn or dropped. -/
theorem drawPrimitive_left (gpu : Gpu) {event? : Option Event}
    (hskippable : ∀ event ∈ event?, event.isSkippable = true) :
    EqUpToPace (gpu.drawPrimitive event?) gpu := by
  unfold Gpu.drawPrimitive
  split
  · exact refl gpu
  · cases event? with
    | none => exact refl gpu
    | some event => exact emit_skippable gpu (hskippable event rfl)

/-- One of the states may draw a primitive and the other drop it. -/
theorem drawPrimitive (h : EqUpToPace left right) {event? : Option Event}
    (hskippable : ∀ event ∈ event?, event.isSkippable = true) :
    EqUpToPace (left.drawPrimitive event?) (right.drawPrimitive event?) :=
  ((drawPrimitive_left left hskippable).trans h).trans (drawPrimitive_left right hskippable).symm

/-- A fill paints the same area in both states, and both tell it. -/
theorem fill (h : EqUpToPace left right) (command position size : UInt32) :
    EqUpToPace (left.fill command position size) (right.fill command position size) := by
  unfold Gpu.fill
  rw [h.vram]
  exact (h.withVram rfl).emit _

/-- Both states copy the same pixels and tell it, or leave alone an image that is copied onto
itself. -/
theorem moveImage (h : EqUpToPace left right) (source destination size : UInt32) :
    EqUpToPace (left.moveImage source destination size)
      (right.moveImage source destination size) := by
  unfold Gpu.moveImage
  rw [h.vram]
  dsimp only
  split
  · exact h
  · exact (h.withVram rfl).emit _

/-- The draw mode and the bits that show it do not ask for the pace. -/
theorem setDrawMode (h : EqUpToPace left right) (word : UInt32) :
    EqUpToPace (left.setDrawMode word) (right.setDrawMode word) := by
  have hmode (shown : UInt32) :
      EqUpToPace
        { left with status := left.status.replace shown word, drawMode := .ofWord word }
        { right with status := right.status.replace shown word, drawMode := .ofWord word } :=
    { h with status := congrArg (·.replace shown word) h.status, drawMode := rfl }
  exact (hmode _).emit _

/-- The drawing environment comes from the word, from the height of the image and from what was
latched before; nothing of that depends on the pace. -/
theorem setEnvironment (h : EqUpToPace left right) (index : Nat) (word : UInt32) :
    EqUpToPace (left.setEnvironment index word) (right.setEnvironment index word) := by
  have hcorner : left.areaCorner word = right.areaCorner word := by
    rw [areaCorner, areaCorner, h.vram]
  unfold Gpu.setEnvironment
  split
  case h_1 => exact h.setDrawMode word
  case h_2 =>
      unfold Gpu.setTextureWindow
      rw [h.latches]
      exact (h.withEnvironment rfl h.display).emit _
  case h_3 =>
      unfold Gpu.setAreaTopLeft
      rw [hcorner, h.latches]
      exact (h.withEnvironment rfl (h.display_congr (·.setAreaTopLeft _ _) fun _ _ => rfl)).emit _
  case h_4 =>
      unfold Gpu.setAreaBottomRight
      rw [hcorner, h.latches]
      exact (h.withEnvironment rfl
        (h.display_congr (·.setAreaBottomRight _ _) fun _ _ => rfl)).emit _
  case h_5 =>
      unfold Gpu.setDrawOffset
      rw [h.latches]
      exact (h.withEnvironment rfl (h.display_congr (·.setDrawOffset _) fun _ _ => rfl)).emit _
  case h_6 =>
      unfold Gpu.setMaskBits
      rw [h.status]
      exact (h.withStatus rfl).emit _
  case h_7 => exact h

/-- Packets that only the pace can suppress are primitives. -/
theorem perform (h : EqUpToPace left right) (family : Family) (words : List UInt32) :
    EqUpToPace (left.perform family words) (right.perform family words) := by
  have hprimitive {α : Type} (event : α → Event)
      (hevent : ∀ value, (event value).isSkippable = true) (decoded? : Option α) :
      EqUpToPace (left.drawPrimitive (decoded?.map event))
        (right.drawPrimitive (decoded?.map event)) := by
    refine h.drawPrimitive fun drawn hdrawn => ?_
    obtain ⟨value, _, rfl⟩ := Option.map_eq_some_iff.1 hdrawn
    exact hevent value
  have hstart (position size : UInt32) :
      Vram.Transfer.start left.vram (.ofTransferWords left.vram position size) =
        .start right.vram (.ofTransferWords right.vram position size) := by
    rw [h.vram]
  unfold Gpu.perform
  split
  case h_1 => exact h.fill _ _ _
  case h_2 => exact hprimitive .polygon (fun _ => rfl) _
  case h_3 => exact hprimitive .line (fun _ => rfl) _
  case h_4 => exact hprimitive .sprite (fun _ => rfl) _
  case h_5 => exact h.moveImage _ _ _
  case h_6 => exact { h with upload := hstart _ _ }
  case h_7 =>
      exact { h with
        download := hstart _ _
        status := congrArg (·.set Status.Mask.readyForPixels) h.status }
  case h_8 => exact h.setEnvironment _ _
  case h_9 => exact h

/-- Drawing arms the busy reads in both states, also where one of them dropped the primitive. -/
theorem execute (h : EqUpToPace left right) (packet : Packet) :
    EqUpToPace (left.execute packet) (right.execute packet) := by
  have hperformed := h.perform (.ofOpcode packet.opcode) packet.words
  unfold Gpu.execute
  dsimp only
  rw [hperformed.fixes]
  split
  · exact hperformed.withStatus (congrArg (·.armBusy busyReadsAfterDrawing) hperformed.status)
  · exact hperformed

/-! ## The data channel -/

theorem withAssembler (h : EqUpToPace left right) (assembler : Assembler) :
    EqUpToPace { left with assembler := assembler } { right with assembler := assembler } :=
  { h with assembler := rfl }

theorem withUpload (h : EqUpToPace left right) (upload : Vram.Transfer) :
    EqUpToPace { left with upload := upload } { right with upload := upload } :=
  { h with upload := rfl }

/-- A command word goes into the same packet in both states and completes it in both or in
neither. -/
theorem interpret (h : EqUpToPace left right) (word : UInt32) :
    EqUpToPace (left.interpret word) (right.interpret word) := by
  unfold Gpu.interpret
  rw [h.assembler]
  split
  · exact h.withAssembler _
  · exact (h.withAssembler _).execute _

/-- An upload ends in both states with the same word, and both tell it. -/
theorem storePixels (h : EqUpToPace left right) (job : Vram.Job) (word : UInt32) :
    EqUpToPace (left.storePixels job word) (right.storePixels job word) := by
  have hstored := h.withVram (congrArg (job.store · word) h.vram)
  unfold Gpu.storePixels
  rw [h.vram] at hstored ⊢
  split
  · exact hstored.withUpload _
  · exact (hstored.withUpload _).emit _

/-- A word brings pixels in both states or is part of a command in both. -/
theorem receive (h : EqUpToPace left right) (word : UInt32) :
    EqUpToPace (left.receive word) (right.receive word) := by
  unfold Gpu.receive
  rw [h.upload]
  split
  · split
    · exact h.storePixels _ word
    · exact (h.withUpload {}).interpret word
  · exact h.interpret word

/-- Words that come one after the other keep states equal up to the pace. -/
theorem receiveAll (h : EqUpToPace left right) (words : List UInt32) :
    EqUpToPace (left.receiveAll words) (right.receiveAll words) := by
  induction words generalizing left right with
  | nil => exact h
  | cons word words ih => exact ih (h.receive word)

/-- Work that keeps states equal does so while the processor is busy. -/
theorem whileBusy (h : EqUpToPace left right) (busy : UInt32) {work : Gpu → Gpu}
    (hwork : ∀ {left right}, EqUpToPace left right → EqUpToPace (work left) (work right)) :
    EqUpToPace (left.whileBusy busy work) (right.whileBusy busy work) := by
  have hworked := hwork (h.withStatus (congrArg (·.unset busy) h.status))
  exact hworked.withStatus (congrArg (·.set busy) hworked.status)

/-- A chunk keeps states equal up to the pace, with the bit that shows it off meanwhile. -/
theorem takeChunk (h : EqUpToPace left right) (words : List UInt32) :
    EqUpToPace (left.takeChunk words) (right.takeChunk words) :=
  h.whileBusy _ fun h => h.receiveAll words

/-- Both states refuse the words that are written, or both take them. -/
theorem writeData (h : EqUpToPace left right) (words : List UInt32) :
    (left.writeData words).1 = (right.writeData words).1 ∧
      EqUpToPace (left.writeData words).2 (right.writeData words).2 :=
  h.ifInitialized _ ⟨rfl, h.takeChunk words⟩

/-- Both states hand out the same words, and the transfer ends in both or in neither. -/
theorem handOut (h : EqUpToPace left right) (count : Nat) :
    (left.handOut count).1 = (right.handOut count).1 ∧
      EqUpToPace (left.handOut count).2 (right.handOut count).2 := by
  have hended := h.withStatus (congrArg (·.unset Status.Mask.readyForPixels) h.status)
  have hfetch : fetchWords left.vram = fetchWords right.vram := by rw [h.vram]
  unfold Gpu.handOut
  rw [h.download, hfetch]
  split
  case h_1 => exact ⟨rfl, h⟩
  case h_2 => exact ⟨rfl, { hended with download := rfl }⟩
  case h_3 job _ _ _ =>
      have hlatched (words : Array UInt32) := congrArg (words.back?.getD ·) h.dataWord
      dsimp only
      split
      · exact ⟨rfl, { h with download := rfl, dataWord := hlatched _ }⟩
      · exact ⟨rfl, { hended with download := rfl, dataWord := hlatched _ }⟩

/-- A read answers the same words in both states, or the same fault. -/
theorem readData (h : EqUpToPace left right) (count : Nat) :
    (left.readData count).1 = (right.readData count).1 ∧
      EqUpToPace (left.readData count).2 (right.readData count).2 := by
  have hbusy := h.withStatus (congrArg (·.unset Status.Mask.idle) h.status)
  obtain ⟨hwords, hout⟩ := hbusy.handOut count
  have hstreaming : left.download.streaming = right.download.streaming :=
    congrArg Vram.Transfer.streaming h.download
  refine h.ifInitialized _ ?_
  dsimp only
  rw [hstreaming]
  split
  · refine ⟨congrArg Except.ok hwords, ?_⟩
    exact hout.withStatus (congrArg (·.set Status.Mask.idle) hout.status)
  · exact ⟨rfl, h⟩

/-- A read leaves the same in the slots that it is to fill. -/
theorem readInto (h : EqUpToPace left right) (slots : List UInt32) :
    (left.readInto slots).1 = (right.readInto slots).1 ∧
      (left.readInto slots).2.1 = (right.readInto slots).2.1 := by
  have hread := (h.readData slots.length).1
  unfold Gpu.readInto
  cases hleft : left.readData slots.length with
  | mk result after =>
    cases hright : right.readData slots.length with
    | mk result' after' =>
      rw [hleft, hright] at hread
      cases hread
      cases result <;> exact ⟨rfl, rfl⟩

/-- A read of one word answers what was latched, which is the same in both states. -/
theorem readWord (h : EqUpToPace left right) : left.readWord.1 = right.readWord.1 := by
  have hread := h.readData 1
  unfold Gpu.readWord
  cases hleft : left.readData 1 with
  | mk result after =>
    cases hright : right.readData 1 with
    | mk result' after' =>
      rw [hleft, hright] at hread
      obtain ⟨rfl, hafter⟩ := hread
      cases result with
      | ok words => exact congrArg Except.ok hafter.dataWord
      | error fault => rfl

/-! ## Chains of blocks -/

/-- A block keeps states equal up to the pace, whether it holds words or none. -/
theorem takeBlock (h : EqUpToPace left right) (words : List UInt32) :
    EqUpToPace (left.takeBlock words) (right.takeBlock words) := by
  unfold Gpu.takeBlock
  split
  · exact h
  · exact h.takeChunk words

/-- Both states walk the same blocks, since the loop detector goes with video memory. -/
theorem walkChain (h : EqUpToPace left right) (memory : Array UInt32) (limit : Nat)
    (address : UInt32) :
    EqUpToPace (Gpu.walkChain memory limit address left)
      (Gpu.walkChain memory limit address right) := by
  induction limit generalizing left right address with
  | zero => exact h
  | succ limit ih =>
      have haddress : left.chainAddress address = right.chainAddress address := by
        rw [chainAddress, chainAddress, h.vram]
      have hvisit : left.vram.visit = right.vram.visit := congrArg _ h.vram
      simp only [Gpu.walkChain, haddress, hvisit]
      have hvisited (vram : Vram.Memory) :
          EqUpToPace { left with vram := vram } { right with vram := vram } := h.withVram rfl
      split
      · exact hvisited _
      · split
        · exact hvisited _
        · next header words _ =>
            split
            · exact (hvisited _).takeBlock words
            · exact ih ((hvisited _).takeBlock words) header.next

/-- Both states refuse a chain, or both follow it to the same end. -/
theorem followChain (h : EqUpToPace left right) (memory : Array UInt32) (address : UInt32) :
    (left.followChain memory address).1 = (right.followChain memory address).1 ∧
      EqUpToPace (left.followChain memory address).2 (right.followChain memory address).2 := by
  refine h.ifInitialized _ ⟨rfl, ?_⟩
  dsimp only
  refine h.whileBusy Status.Mask.idle fun h => ?_
  exact (h.withVram (congrArg _ h.vram)).walkChain memory Chain.blockLimit address

end GpuCore.Gpu.EqUpToPace
