import GpuCore.Operation
import GpuCore.Proofs.DataChannel.Frame
import GpuCore.Proofs.Freeze.Codec
import GpuCore.Proofs.Freeze.Replay

/-!
# Freezing and thawing later

A state that was frozen is thawed bit for bit after anything that keeps the size of video memory,
although the replay of control words rewrites status word and slots on the way.

Main results:

- `Gpu.freeze_save`: freezing succeeds in every buffer with room for the record.
- `Gpu.freeze_load`: thawing succeeds where the image has the size of that in the record.
- `Gpu.load_after_save`: status word, control slots and pixels survive any operations between
  freezing and thawing.
-/

namespace GpuCore.Gpu

/-! ## Freezing -/

theorem size_record {gpu : Gpu} (hinitialized : gpu.isInitialized = true) :
    gpu.record.size = gpu.freezeSize := by
  rw [Freeze.Record.size, size_record_pixels hinitialized, freezeSize]

/-- With video memory, saving writes the record of the current state. -/
theorem saveTo_eq_writeTo {gpu : Gpu} (hinitialized : gpu.isInitialized = true)
    (buffer : Array UInt8) : gpu.saveTo buffer = gpu.record.writeTo buffer := by
  rw [saveTo, snapshot_of_initialized hinitialized]
  exact pure_bind gpu.record fun record => record.writeTo buffer

/-- Freezing writes the record to the front of a buffer with room for it and changes nothing. -/
theorem freeze_save {gpu : Gpu} {buffer : Array UInt8} (hinitialized : gpu.isInitialized = true)
    (hroom : gpu.freezeSize ≤ buffer.size) :
    gpu.freeze .save buffer =
      (.ok (), gpu.record.toBytes ++ buffer.extract gpu.record.size, gpu) := by
  have hfits : gpu.record.size ≤ buffer.size := by rwa [size_record hinitialized]
  have hwritten : gpu.record.writeTo buffer =
      .ok (gpu.record.toBytes ++ buffer.extract gpu.record.size) := by
    rw [Freeze.Record.writeTo, Freeze.Record.write_of_fits _ hfits]
    rfl
  rw [freeze, saveTo_eq_writeTo hinitialized, hwritten]

/-! ## Thawing -/

/-- Thawing the record of one processor in another one with an image of the same size. -/
theorem freeze_load {gpu later : Gpu} (rest : Array UInt8)
    (hinitialized : gpu.isInitialized = true) (hlater : later.isInitialized = true)
    (hsize : later.vram.size = gpu.vram.size) :
    later.freeze .load (gpu.record.toBytes ++ rest) =
      (.ok (), gpu.record.toBytes ++ rest, later.thaw gpu.record) := by
  have hpixels : gpu.record.pixels.size = later.vram.size := by
    rw [size_record_pixels hinitialized, hsize]
  have hread : Freeze.Record.ofBytes (gpu.record.toBytes ++ rest) later.vram.size =
      .ok gpu.record := by
    rw [← hpixels]
    exact Freeze.Record.ofBytes_toBytes_append gpu.record rest rfl
  have hrestored : later.restoreBytes (gpu.record.toBytes ++ rest) =
      (.ok (), later.thaw gpu.record) := by
    rw [restoreBytes, hread]
    exact restore_of_fits hlater rfl hpixels
  rw [freeze, ifInitialized, if_pos hlater, hrestored]

/-! ## The round trip -/

/-- Freezing succeeds, and after any operations that leave video memory of the same height,
thawing succeeds and brings status word, control slots and pixels back. -/
theorem load_after_save (gpu : Gpu) (buffer : Array UInt8) (operations : List Operation)
    (hinitialized : gpu.isInitialized = true) (hroom : gpu.freezeSize ≤ buffer.size)
    (hlater : (gpu.run operations).isInitialized = true)
    (hheight : (gpu.run operations).vram.height = gpu.vram.height) :
    ∃ saved, gpu.freeze .save buffer = (.ok (), saved, gpu) ∧
      ∃ loaded, (gpu.run operations).freeze .load saved = (.ok (), saved, loaded) ∧
        loaded.status.word = gpu.status.word ∧
        loaded.control = gpu.control ∧
        loaded.vram.pixels = gpu.vram.pixels := by
  have hsize : (gpu.run operations).vram.size = gpu.vram.size :=
    congrArg Vram.Height.pixels hheight
  refine ⟨_, freeze_save hinitialized hroom, _, freeze_load _ hinitialized hlater hsize, ?_⟩
  refine ⟨word_thaw _ _, control_thaw _ _, ?_⟩
  rw [← pixels_record gpu, pixels_thaw hlater]
  rw [size_record_pixels hinitialized, hsize]

/-- A state frozen at power-on and thawed after a display mode, a drawing command and a reset. -/
theorem load_after_save_reset :
    let gpu := (create {} (.create {} 1000000)).powerOn
    let buffer : Array UInt8 := Array.replicate gpu.freezeSize 0
    let operations : List Operation :=
      [.writeControl 0x08000008, .writeData [0xE1000400], .writeControl 0]
    gpu.isInitialized = true ∧ gpu.freezeSize ≤ buffer.size ∧
      (gpu.run operations).isInitialized = true ∧
      (gpu.run operations).vram.height = gpu.vram.height ∧
      ∃ saved, gpu.freeze .save buffer = (.ok (), saved, gpu) ∧
        ∃ loaded, (gpu.run operations).freeze .load saved = (.ok (), saved, loaded) ∧
          loaded.status.word = gpu.status.word ∧
          loaded.control = gpu.control ∧
          loaded.vram.pixels = gpu.vram.pixels := by
  intro gpu buffer operations
  have hinitialized : gpu.isInitialized = true := powerOn_isInitialized _
  have hroom : gpu.freezeSize ≤ buffer.size := Nat.le_of_eq Array.size_replicate.symm
  have hshape : gpu.vram.SameShape (gpu.run operations).vram := by
    have hdrawn := (dataFrame_writeData (gpu.writeControl 0x08000008) [0xE1000400]).shape
    rw [vram_writeControl] at hdrawn
    rw [run_cons, run_cons, run_cons, run_nil, apply, apply, apply, vram_writeControl]
    exact hdrawn
  have hlater : (gpu.run operations).isInitialized = true :=
    hshape.isAllocated_eq.trans hinitialized
  exact ⟨hinitialized, hroom, hlater, hshape.1,
    load_after_save gpu buffer operations hinitialized hroom hlater hshape.1⟩

end GpuCore.Gpu
