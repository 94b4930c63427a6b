import GpuCore.Proofs.DataChannel.Chunking
import GpuCore.Proofs.DataChannel.Packet
import GpuCore.Proofs.Vram.Stream

/-!
# Receiving an image

The data words behind the command that begins an upload are stored two pixels at a time, until the
area is full.  The renderer is told then, and the processor is ready for the next command.

Main definitions:

- `Word.pixel`: a pixel of a list of data words by its number.
- `Gpu.receiving` and `Gpu.received`: the processor within an image and behind it.

Main results:

- `Gpu.receive_at`: the effect of one data word.
- `Gpu.receiveAll_take`: the first words of an image.
- `Gpu.receiveAll_image` and `Gpu.takeChunk_image`: the whole image.
-/

namespace GpuCore

/-! ## Pixels of data words -/

/-- Pixel number `index` of data words, which hold two pixels each, the lower half first. -/
def Word.pixel (words : List UInt32) (index : Nat) : UInt16 :=
  if index % 2 = 0 then low (words.getD (index / 2) 0) else high (words.getD (index / 2) 0)

theorem Word.pixel_low (words : List UInt32) (index : Nat) :
    pixel words (2 * index) = low (words.getD index 0) := by
  rw [pixel, if_pos (Nat.mul_mod_right 2 index), Nat.mul_div_cancel_left index (by decide)]

theorem Word.pixel_high (words : List UInt32) (index : Nat) :
    pixel words (2 * index + 1) = high (words.getD index 0) := by
  have hodd : (2 * index + 1) % 2 ≠ 0 := by omega
  have hword : (2 * index + 1) / 2 = index := by omega
  rw [pixel, if_neg hodd, hword]

namespace Gpu

open Vram.Memory (Stored)

variable {gpu : Gpu} {area : Vram.Area} {index : Nat}

/-! ## One word -/

/-- The upload whose next pixel is number `index`. -/
def uploadAt (memory : Vram.Memory) (area : Vram.Area) (index : Nat) : Vram.Transfer where
  streaming := true
  job := some (.at memory area index)

/-- While an upload is in progress, words are pixels. -/
theorem receive_of_job {job : Vram.Job} (hstreaming : gpu.upload.streaming = true)
    (hjob : gpu.upload.job = some job) (word : UInt32) :
    gpu.receive word = gpu.storePixels job word := by
  rw [receive, if_pos hstreaming, hjob]

/-- A data word is stored; behind the last one the upload is over, and the renderer is told. -/
theorem receive_at (hupload : gpu.upload = uploadAt gpu.vram area index)
    (hfits : area.Fits gpu.vram) (hindex : index < area.pixelCount) (word : UInt32) :
    gpu.receive word =
      if index + 2 < area.pixelCount then
        { gpu with
          vram := (Vram.Job.at gpu.vram area index).store gpu.vram word
          upload := uploadAt gpu.vram area (index + 2) }
      else
        emit
          { gpu with
            vram := (Vram.Job.at gpu.vram area index).store gpu.vram word
            upload := {} }
          (.upload area) := by
  have hstreaming : gpu.upload.streaming = true := by rw [hupload, uploadAt]
  have hjob : gpu.upload.job = some (.at gpu.vram area index) := by rw [hupload, uploadAt]
  rw [receive_of_job hstreaming hjob]
  unfold storePixels
  rw [Vram.Job.advanceWord_at hfits hindex, Vram.Job.rest]
  by_cases hmore : index + 2 < area.pixelCount
  · rw [if_pos hmore, if_pos hmore]
    rfl
  · rw [if_neg hmore, if_neg hmore]
    rfl

/-- The processor while it receives an image: the pixels in front of number `index` are set. -/
def receiving (gpu : Gpu) (area : Vram.Area) (pixel : Nat → UInt16) (index : Nat) : Gpu :=
  { gpu with
    vram := gpu.vram.imprint (area.address gpu.vram) pixel index
    upload := uploadAt gpu.vram area index }

/-- The processor behind the last pixel: no upload is in progress, and the renderer was told the
area. -/
def received (gpu : Gpu) (area : Vram.Area) (pixel : Nat → UInt16) : Gpu :=
  emit
    { gpu with
      vram := gpu.vram.imprint (area.address gpu.vram) pixel area.pixelCount
      upload := {} }
    (.upload area)

/-- A word of an image that is being received adds the next two pixels. -/
theorem receive_receiving {pixel : Nat → UInt16} {word : UInt32} (hfits : area.Fits gpu.vram)
    (hindex : index < area.pixelCount) (hlow : pixel index = Word.low word)
    (hhigh : pixel (index + 1) = Word.high word) :
    (gpu.receiving area pixel index).receive word =
      if index + 2 < area.pixelCount then
        gpu.receiving area pixel (index + 2)
      else
        gpu.received area pixel := by
  have hshape := Vram.Memory.sameShape_imprint gpu.vram (area.address gpu.vram) pixel index
  have hjob := Vram.Job.at_congr hshape area
  have hupload : uploadAt gpu.vram area index = uploadAt (gpu.receiving area pixel index).vram area
      index := by
    rw [uploadAt, uploadAt, receiving, hjob]
  have hstored := Vram.Job.store_at hfits hindex hlow hhigh
  rw [receive_at hupload (hshape.fits hfits) hindex word]
  dsimp only [receiving, uploadAt]
  rw [hjob, hjob, hstored]
  split
  · next hmore => rw [Nat.min_eq_left (Nat.le_of_lt hmore)]
  · next hlast => rw [Nat.min_eq_right (Nat.le_of_not_lt hlast), received]

/-! ## The words of an image -/

theorem receiveAll_take_succ {after : Gpu} {data : List UInt32} {count : Nat}
    (hcount : count < data.length) (hreceived : gpu.receiveAll (data.take count) = after) :
    gpu.receiveAll (data.take (count + 1)) = after.receive (data.getD count 0) := by
  rw [List.take_succ_eq_append_getElem hcount, receiveAll_append, hreceived, receiveAll,
    List.foldl_cons, List.foldl_nil, List.getElem_eq_getD 0]

/-- The first words of an image, as long as pixels are left behind them. -/
theorem receiveAll_take (hfits : area.Fits gpu.vram) (data : List UInt32) {count : Nat}
    (hcount : 2 * count < area.pixelCount) (hdata : count ≤ data.length) :
    (gpu.receiving area (Word.pixel data) 0).receiveAll (data.take count) =
      gpu.receiving area (Word.pixel data) (2 * count) := by
  induction count with
  | zero => rfl
  | succ count ih =>
      have hreceived := ih (by omega) (Nat.le_of_succ_le hdata)
      rw [Nat.mul_succ] at hcount ⊢
      rw [receiveAll_take_succ hdata hreceived,
        receive_receiving hfits (by omega) (Word.pixel_low data count) (Word.pixel_high data count),
        if_pos hcount]

/-- The words of a whole image. -/
theorem receiveAll_image (hfits : area.Fits gpu.vram) {data : List UInt32}
    (hdata : data.length = area.wordCount) :
    (gpu.receiving area (Word.pixel data) 0).receiveAll data =
      gpu.received area (Word.pixel data) := by
  have hpositive := hfits.pixelCount_pos
  obtain ⟨count, hcount⟩ : ∃ count, data.length = count + 1 :=
    Nat.exists_eq_succ_of_ne_zero (by rw [hdata, Vram.Area.wordCount]; omega)
  have hpixels : 2 * count < area.pixelCount ∧ area.pixelCount ≤ 2 * count + 2 := by
    rw [hdata, Vram.Area.wordCount] at hcount
    omega
  have hlast := receiveAll_take_succ (by omega)
    (receiveAll_take hfits data hpixels.1 (by omega))
  rw [receive_receiving hfits hpixels.1 (Word.pixel_low data count) (Word.pixel_high data count),
    if_neg (Nat.not_lt_of_le hpixels.2), ← hcount, List.take_length] at hlast
  exact hlast

/-- The command that begins an upload. -/
theorem beginUpload_eq_receiving (gpu : Gpu) (position size : UInt32) (pixel : Nat → UInt16) :
    gpu.beginUpload position size =
      gpu.receiving (Vram.Area.ofTransferWords gpu.vram position size) pixel 0 := by
  rw [beginUpload, receiving, uploadAt, ← Vram.Job.start_eq_at]
  rfl

/-- An image in one chunk with the command in front of it. -/
theorem takeChunk_image (hidle : gpu.assembler.isIdle = true)
    (hstreaming : gpu.upload.streaming = false) {command : UInt32}
    (hcommand : Word.command command = 0xA0) (position size : UInt32) {data : List UInt32}
    (hdata : data.length = (Vram.Area.ofTransferWords gpu.vram position size).wordCount) :
    let area := Vram.Area.ofTransferWords gpu.vram position size
    gpu.takeChunk ([command, position, size] ++ data) =
      received
        { gpu with
          status := (gpu.status.unset Status.Mask.available).set Status.Mask.available }
        area (Word.pixel data) := by
  intro area
  let busy : Gpu := { gpu with status := gpu.status.unset Status.Mask.available }
  have hfits : area.Fits busy.vram := Vram.Area.fits_ofTransferWords gpu.vram position size
  have hbegun := @receiveAll_upload busy hidle hstreaming command hcommand position size
  have hall : busy.receiveAll ([command, position, size] ++ data) =
      busy.received area (Word.pixel data) := by
    rw [receiveAll_append, hbegun, beginUpload_eq_receiving busy position size (Word.pixel data)]
    exact receiveAll_image hfits hdata
  exact takeChunk_of_receiveAll hall

/-- The pixels of such an image are stored at the positions of its area. -/
theorem takeChunk_upload (hinit : gpu.isInitialized = true) (hidle : gpu.assembler.isIdle = true)
    (hstreaming : gpu.upload.streaming = false) (position size : UInt32) {data : List UInt32}
    (hdata : data.length = (Vram.Area.ofTransferWords gpu.vram position size).wordCount) :
    let area := Vram.Area.ofTransferWords gpu.vram position size
    ∃ memory,
      Stored (gpu.vram.streamPosition area) (Word.pixel data) area.pixelCount gpu.vram memory ∧
      gpu.takeChunk ([0xA0000000, position, size] ++ data) =
        emit
          { gpu with
            vram := memory
            upload := {}
            status := (gpu.status.unset Status.Mask.available).set Status.Mask.available }
          (.upload area) := by
  intro area
  have hfits : area.Fits gpu.vram := Vram.Area.fits_ofTransferWords gpu.vram position size
  have hstored := Vram.Memory.stored_stream (Word.pixel data) hinit hfits
  exact ⟨_, hstored, takeChunk_image hidle hstreaming rfl position size hdata⟩

end Gpu

end GpuCore
