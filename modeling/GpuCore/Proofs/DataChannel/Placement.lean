import GpuCore.Gpu.Control
import GpuCore.Proofs.DataChannel.Upload

/-!
# Where an image goes

An image that is written as a whole ends up where its addresses say: pixel number `k` of an area
lies `k / width` lines and `k % width` columns behind the first one, and the image is continued at
its beginning.  Nothing else in video memory changes, and the words behind the image find the
processor as if the pixels had always been there.

Main results:

- `Gpu.takeChunk_of_done`: a selected upload without pixels is dropped with the first word.
- `Gpu.writeData_upload`: the effect of an image and of the words behind it.
-/

namespace GpuCore.Gpu

variable {gpu : Gpu}

/-! ## In front of an image -/

/-- A selected upload without pixels is dropped with the first word. -/
theorem takeChunk_of_done (hstreaming : gpu.upload.streaming = true)
    (hdone : gpu.upload.job = none) (word : UInt32) (words : List UInt32) :
    gpu.takeChunk (word :: words) = takeChunk { gpu with upload := {} } (word :: words) := by
  have hreceived (status : Status) :
      receive { gpu with status := status } word =
        receive { gpu with status := status, upload := {} } word := by
    unfold receive
    dsimp only
    rw [if_pos hstreaming, hdone, if_neg Bool.false_ne_true]
  simp only [takeChunk, whileBusy, receiveAll, List.foldl_cons, hreceived]

/-- An image with the command in front of it, unless pixels of another one are awaited. -/
theorem takeChunk_image_of_done (hidle : gpu.assembler.isIdle = true)
    (hdone : gpu.upload.streaming = true → gpu.upload.job = none) {command : UInt32}
    (hcommand : Word.command command = 0xA0) (position size : UInt32) {data : List UInt32}
    (hdata : data.length = (Vram.Area.ofTransferWords gpu.vram position size).wordCount) :
    gpu.takeChunk ([command, position, size] ++ data) =
      received
        { gpu with
          status := (gpu.status.unset Status.Mask.available).set Status.Mask.available }
        (.ofTransferWords gpu.vram position size) (Word.pixel data) := by
  cases hstreaming : gpu.upload.streaming with
  | false => exact takeChunk_image hidle hstreaming hcommand position size hdata
  | true =>
      have hdropped := @takeChunk_image { gpu with upload := {} } hidle rfl command hcommand
        position size data hdata
      rw [List.cons_append, takeChunk_of_done hstreaming (hdone hstreaming)]
      exact hdropped

/-! ## An image and the words behind it -/

/-- The next chunk takes back first that the processor showed itself as available. -/
theorem takeChunk_received (gpu : Gpu) (area : Vram.Area) (pixel : Nat → UInt16)
    (words : List UInt32) :
    takeChunk
        (received
          { gpu with
            status := (gpu.status.unset Status.Mask.available).set Status.Mask.available }
          area pixel) words =
      (gpu.received area pixel).takeChunk words := by
  have hclear := Status.unset_set_of_bits_eq_zero (gpu.status.unset Status.Mask.available)
    (Status.bits_unset_self gpu.status)
  simp only [takeChunk, whileBusy, received, emit, hclear]

/-- An image in one chunk with its command and any further words.  Every pixel of its area is set to
the half word of its number, at its line and column behind the first pixel counted through the
image, and nothing else in video memory changes: the half word that an odd number of pixels leaves
over is dropped.  The renderer is told the area once, behind the last pixel.  No upload is in
progress then, and the words behind the image are taken as if they had been written alone. -/
theorem writeData_upload (hinit : gpu.isInitialized = true) (hidle : gpu.assembler.isIdle = true)
    (hdone : gpu.upload.streaming = true → gpu.upload.job = none) {command : UInt32}
    (hcommand : Word.command command = 0xA0) (position size : UInt32) {data : List UInt32}
    (hdata : data.length = (Vram.Area.ofTransferWords gpu.vram position size).wordCount)
    (rest : List UInt32) :
    let area := Vram.Area.ofTransferWords gpu.vram position size
    let address := area.address gpu.vram
    let memory := gpu.vram.imprint address (Word.pixel data) area.pixelCount
    gpu.writeData ([command, position, size] ++ data ++ rest) =
        (emit { gpu with vram := memory, upload := {} } (.upload area)).writeData rest ∧
      (∀ k < area.pixelCount, memory.pixels[address k]? = some (Word.pixel data k)) ∧
      ∀ index, (∀ k < area.pixelCount, address k ≠ index) →
        memory.pixels[index]? = gpu.vram.pixels[index]? := by
  intro area address memory
  have hfits : area.Fits gpu.vram := Vram.Area.fits_ofTransferWords gpu.vram position size
  have haddress : ∀ k, address k < gpu.vram.size := gpu.vram.address_lt area
  have hinj (i j : Nat) (hij : i < j) (hj : j < area.pixelCount) : address i ≠ address j :=
    fun hsame => Nat.ne_of_lt hij
      (Vram.Memory.address_inj hfits (Nat.lt_trans hij hj) hj hsame)
  refine ⟨?written, fun k hk => ?inside, fun index hother => ?outside⟩
  case written =>
      have hinit' : (emit { gpu with vram := memory, upload := {} } (.upload area)).isInitialized =
          true := by
        rw [isInitialized, ← hinit]
        exact (Vram.Memory.sameShape_imprint gpu.vram address _ _).isAllocated_eq
      rw [writeData_of_isInitialized hinit, writeData_of_isInitialized hinit', takeChunk_append,
        takeChunk_image_of_done hidle hdone hcommand position size hdata, takeChunk_received,
        received]
  case inside => exact Vram.Memory.getElem?_imprint hinit haddress hinj hk
  case outside => exact Vram.Memory.getElem?_imprint_of_ne hinit haddress hinj hother

/-- Nine pixels that run over the right and the lower edge, with a command behind them, where a
finished upload is still selected. -/
theorem writeData_upload_edges :
    let gpu := (create {} (.create {} 1000000)).powerOn.writeControl 0x04000002
    let position : UInt32 := 0x01FF03FF
    let size : UInt32 := 0x00030003
    let data : List UInt32 := [0x00020001, 0x00040003, 0x00060005, 0x00080007, 0xFFFF0009]
    let rest : List UInt32 := [0xE1000400]
    let area := Vram.Area.ofTransferWords gpu.vram position size
    let address := area.address gpu.vram
    let memory := gpu.vram.imprint address (Word.pixel data) area.pixelCount
    gpu.isInitialized = true ∧ gpu.assembler.isIdle = true ∧
      (gpu.upload.streaming = true → gpu.upload.job = none) ∧
      Word.command 0xA0123456 = 0xA0 ∧ data.length = area.wordCount ∧
      gpu.writeData ([0xA0123456, position, size] ++ data ++ rest) =
          (emit { gpu with vram := memory, upload := {} } (.upload area)).writeData rest ∧
        (∀ k < area.pixelCount, memory.pixels[address k]? = some (Word.pixel data k)) ∧
        ∀ index, (∀ k < area.pixelCount, address k ≠ index) →
          memory.pixels[index]? = gpu.vram.pixels[index]? := by
  intro gpu position size data rest area address memory
  have hinit : gpu.isInitialized = true := powerOn_isInitialized _
  have hidle : gpu.assembler.isIdle = true := rfl
  have hdone : gpu.upload.streaming = true → gpu.upload.job = none := fun _ => rfl
  have hcommand : Word.command 0xA0123456 = 0xA0 := by decide
  have hdata : data.length = area.wordCount := by decide +kernel
  exact ⟨hinit, hidle, hdone, hcommand, hdata,
    writeData_upload hinit hidle hdone hcommand position size hdata rest⟩

end GpuCore.Gpu
