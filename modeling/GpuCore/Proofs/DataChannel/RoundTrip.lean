import GpuCore.Proofs.DataChannel.Download
import GpuCore.Proofs.DataChannel.Upload

/-!
# Images there and back

The data channel hands out an area in the order in which it fills one, and no pixel of an area is
visited twice.  What was stored is therefore handed out again, wherever the area lies and however
the words are cut on either way.

Main results:

- `Vram.Memory.pixel_dataWords`: the pixels of the words of an area.
- `Gpu.readAll_after_upload`: reading the area of an image that was just received.
- `Gpu.download_after_upload`: the words of an image are read back.
-/

namespace GpuCore

open Vram.Memory (Stored)

/-! ## Words and pixels -/

/-- A data word holds two pixels. -/
theorem Word.getD_eq_ofHalves (words : List UInt32) (index : Nat) :
    words.getD index 0 = ofHalves (pixel words (2 * index)) (pixel words (2 * index + 1)) := by
  rw [pixel_low, pixel_high, ofHalves_low_high]

namespace Vram.Memory

variable {memory : Memory} {area : Area}

theorem getD_dataWords (memory : Memory) (area : Area) (first : Nat) {count index : Nat}
    (hindex : index < count) :
    (memory.dataWords area first count).getD index 0 = memory.dataWord area (first + index) := by
  simp [dataWords, hindex]

/-- The words of an area hold its pixels in the order of the transfer. -/
theorem pixel_dataWords (memory : Memory) {index : Nat} (hindex : index < area.pixelCount) :
    Word.pixel (memory.dataWords area 0 area.wordCount) index =
      memory.read (memory.streamPosition area index) := by
  have hword : index / 2 < area.wordCount := by
    rw [Area.wordCount]
    omega
  rw [Word.pixel, getD_dataWords memory area 0 hword, Nat.zero_add, dataWord]
  split
  · next heven => rw [Word.low_ofHalves, Nat.mul_div_cancel' (Nat.dvd_of_mod_eq_zero heven)]
  · next hodd =>
      have hindex' : 2 * (index / 2) + 1 = index := by omega
      rw [Word.high_ofHalves, hindex']

end Vram.Memory

namespace Gpu

variable {gpu : Gpu}

/-! ## Upload and download -/

/-- Behind an image that was just received, reads that take all of its area bring the pixels of the
image. -/
theorem readAll_after_upload (hinit : gpu.isInitialized = true)
    (hidle : gpu.assembler.isIdle = true) (hstreaming : gpu.upload.streaming = false)
    (position size : UInt32) {data : List UInt32}
    (hdata : data.length = (Vram.Area.ofTransferWords gpu.vram position size).wordCount)
    {reads : List DataRead} (hdrains : DataRead.drains data.length reads = true) :
    let area := Vram.Area.ofTransferWords gpu.vram position size
    let received := gpu.takeChunk ([0xA0000000, position, size] ++ data)
    ∃ words after,
      (received.takeChunk [0xC0000000, position, size]).readAll reads = (.ok words, after) ∧
      words.length = data.length ∧
      (∀ index < area.pixelCount, Word.pixel words index = Word.pixel data index) ∧
      after.download = {} ∧ after.status.any Status.Mask.readyForPixels = false := by
  intro area received
  obtain ⟨memory, hstored, hreceived⟩ := takeChunk_upload hinit hidle hstreaming position size hdata
  have hshape := hstored.shape
  have harea : Vram.Area.ofTransferWords memory position size = area :=
    hshape.ofTransferWords_eq position size
  have hvram : received.vram = memory := congrArg Gpu.vram hreceived
  have hidle' : received.assembler.isIdle = true :=
    (congrArg (fun gpu => gpu.assembler.isIdle) hreceived).trans hidle
  have hstreaming' : received.upload.streaming = false :=
    congrArg (fun gpu => gpu.upload.streaming) hreceived
  have hinit' : received.isInitialized = true := by
    rw [isInitialized, hvram, hstored.isAllocated_eq]
    exact hinit
  have hread := @readAll_download received hinit' hidle' hstreaming' position size reads
  rw [hvram, harea, ← hdata] at hread
  obtain ⟨after, hwords, hrest, hready⟩ := hread hdrains
  refine ⟨_, after, hwords, ?_, fun index hindex => ?_, by rw [hrest], hready⟩
  · rw [Vram.Memory.length_dataWords, hdata]
  · rw [Vram.Memory.pixel_dataWords memory hindex, hshape.streamPosition_eq]
    exact hstored.inside index hindex

/-- The words of an image are read back: however the stream of commands and data words is cut, and
however the words are taken, there are as many of them as were written, and they are those that were
written, save that the upper half of the last one is no pixel of an area with an odd number of them.
Behind the last word no download is in progress, and no pixels are announced. -/
theorem download_after_upload (gpu : Gpu) (position size : UInt32) (data : List UInt32)
    (chunks : List (List UInt32)) (reads : List DataRead) (hinit : gpu.isInitialized = true)
    (hidle : gpu.assembler.isIdle = true) (hstreaming : gpu.upload.streaming = false)
    (hdata : data.length = (Vram.Area.ofTransferWords gpu.vram position size).wordCount)
    (hcut : chunks.flatten =
      [0xA0000000, position, size] ++ data ++ [0xC0000000, position, size])
    (hdrains : DataRead.drains data.length reads = true) :
    let area := Vram.Area.ofTransferWords gpu.vram position size
    ∃ written words after,
      gpu.writeChunks chunks = (List.replicate chunks.length (.ok ()), written) ∧
      written.readAll reads = (.ok words, after) ∧
      words.length = data.length ∧
      (∀ index, 2 * index + 1 < area.pixelCount → words.getD index 0 = data.getD index 0) ∧
      (∀ index, 2 * index < area.pixelCount →
        Word.low (words.getD index 0) = Word.low (data.getD index 0)) ∧
      after.download.streaming = false ∧
      after.status.any Status.Mask.readyForPixels = false := by
  intro area
  obtain ⟨words, after, hread, hlength, hpixels, hdownload, hready⟩ :=
    readAll_after_upload hinit hidle hstreaming position size hdata hdrains
  cases chunks with
  | nil => simp at hcut
  | cons chunk chunks =>
      have hwritten := writeChunks_cons_of_isInitialized hinit chunk chunks
      rw [hcut, takeChunk_append] at hwritten
      refine ⟨_, words, after, hwritten, hread, hlength, fun index hindex => ?_,
        fun index hindex => ?_, by rw [hdownload], hready⟩
      · rw [Word.getD_eq_ofHalves, hpixels _ (Nat.lt_of_succ_lt hindex), hpixels _ hindex,
          ← Word.getD_eq_ofHalves]
      · rw [← Word.pixel_low, ← Word.pixel_low]
        exact hpixels _ hindex

/-- Nine pixels that run over the right and the lower edge, cut on both ways. -/
theorem download_after_upload_edges :
    let gpu := (create {} (.create {} 1000000)).powerOn
    let position : UInt32 := 0x01FF03FF
    let size : UInt32 := 0x00030003
    let data : List UInt32 := [0x00020001, 0x00040003, 0x00060005, 0x00080007, 0xFFFF0009]
    let chunks : List (List UInt32) :=
      [[0xA0000000, position], [size, 0x00020001], [], [0x00040003, 0x00060005, 0x00080007],
        [0xFFFF0009, 0xC0000000], [position, size]]
    let reads : List DataRead := [.word, .chunk [0, 0], .chunk [], .word, .chunk [7, 7, 7]]
    let area := Vram.Area.ofTransferWords gpu.vram position size
    gpu.isInitialized = true ∧ gpu.assembler.isIdle = true ∧ gpu.upload.streaming = false ∧
      data.length = area.wordCount ∧
      chunks.flatten = [0xA0000000, position, size] ++ data ++ [0xC0000000, position, size] ∧
      DataRead.drains data.length reads = true ∧
      ∃ written words after,
        gpu.writeChunks chunks = (List.replicate chunks.length (.ok ()), written) ∧
        written.readAll reads = (.ok words, after) ∧
        words.length = data.length ∧
        (∀ index, 2 * index + 1 < area.pixelCount → words.getD index 0 = data.getD index 0) ∧
        (∀ index, 2 * index < area.pixelCount →
          Word.low (words.getD index 0) = Word.low (data.getD index 0)) ∧
        after.download.streaming = false ∧
        after.status.any Status.Mask.readyForPixels = false := by
  intro gpu position size data chunks reads area
  have hinit : gpu.isInitialized = true := powerOn_isInitialized _
  have hidle : gpu.assembler.isIdle = true := rfl
  have hstreaming : gpu.upload.streaming = false := rfl
  have hdata : data.length = area.wordCount := by decide +kernel
  have hcut : chunks.flatten =
      [0xA0000000, position, size] ++ data ++ [0xC0000000, position, size] := by decide
  have hdrains : DataRead.drains data.length reads = true := by decide
  exact ⟨hinit, hidle, hstreaming, hdata, hcut, hdrains,
    download_after_upload gpu position size data chunks reads hinit hidle hstreaming hdata hcut
      hdrains⟩

end Gpu

end GpuCore
