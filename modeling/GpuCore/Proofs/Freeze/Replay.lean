import GpuCore.Gpu.Freezing
import GpuCore.Proofs.Control.Frame
import GpuCore.Proofs.Vram.Image

/-!
# Restoring a record

Restoring replays nine control slots, and each of them may reset the processor, write its own
slot again and change status bits.  This module shows what the replay does not touch, and what is
set again behind it.

Main results:

- `Gpu.replay_preserves`: a replay keeps what control words keep, video memory for one.
- `Gpu.busyReads_thaw`: no busy read is left behind the replay.
- `Gpu.word_thaw`, `Gpu.control_thaw` and `Gpu.pixels_thaw`: status word, control slots and
  pixels are those of the record.
- `Gpu.restore_cases`: a record is either thawed or refused without a trace.
- `Gpu.freeze_preserves`: the host's requests keep what thawing keeps.
-/

namespace GpuCore.Gpu

/-! ## Records -/

@[simp]
theorem pixels_record (gpu : Gpu) : gpu.record.pixels = gpu.vram.pixels := by
  rw [record]

/-- With video memory a record of the current state is taken. -/
theorem snapshot_of_initialized {gpu : Gpu} (hinitialized : gpu.isInitialized = true) :
    gpu.snapshot = .ok gpu.record :=
  if_pos hinitialized

theorem snapshot_eq_ok {gpu : Gpu} {record : Freeze.Record} (htaken : gpu.snapshot = .ok record) :
    gpu.isInitialized = true ∧ record = gpu.record := by
  unfold snapshot at htaken
  split at htaken
  · next hinitialized =>
    cases htaken
    exact ⟨hinitialized, rfl⟩
  · cases htaken

/-- The record has an image of the size of video memory. -/
theorem size_record_pixels {gpu : Gpu} (hinitialized : gpu.isInitialized = true) :
    gpu.record.pixels.size = gpu.vram.size := by
  rw [pixels_record]
  exact Vram.Memory.size_pixels hinitialized

/-! ## What the replay leaves alone -/

@[simp]
theorem vram_writeControl (gpu : Gpu) (word : UInt32) : (gpu.writeControl word).vram = gpu.vram :=
  (controlFrame_writeControl gpu word).vram

/-- A replay of slots keeps what control words keep, whatever the slots hold. -/
theorem replay_preserves {P : Gpu → Prop} (hword : ∀ gpu word, P gpu → P (gpu.writeControl word))
    (control : Vector UInt32 controlSlots) (slots : List (Fin controlSlots)) {gpu : Gpu}
    (hgpu : P gpu) : P (slots.foldl (replaySlot control) gpu) := by
  induction slots generalizing gpu with
  | nil => exact hgpu
  | cons slot slots ih =>
      refine ih ?_
      unfold replaySlot
      dsimp only
      split
      · exact hword gpu _ hgpu
      · exact hgpu

@[simp]
theorem vram_replay (control : Vector UInt32 controlSlots) (gpu : Gpu)
    (slots : List (Fin controlSlots)) :
    (slots.foldl (replaySlot control) gpu).vram = gpu.vram := by
  refine replay_preserves (P := fun after => after.vram = gpu.vram) ?_ control slots rfl
  intro after word hafter
  rw [vram_writeControl, hafter]

@[simp]
theorem vram_applyMode (gpu : Gpu) : gpu.applyMode.vram = gpu.vram := by
  unfold applyMode
  split <;> rfl

/-! ## Busy reads -/

theorem status_writeControl_of_reset (gpu : Gpu) {word : UInt32}
    (hreset : Word.field word 24 8 = 0) : (gpu.writeControl word).status = {} := by
  simp only [writeControl, obey, hreset]
  rfl

/-- A control word arms no busy reads. -/
theorem busyReads_writeControl {gpu : Gpu} (hnone : gpu.status.busyReads = 0) (word : UInt32) :
    (gpu.writeControl word).status.busyReads = 0 := by
  rcases obey_status (gpu.keepControl word) word with hreset | ⟨hreads, _⟩
  · rw [writeControl, hreset]
  · exact hreads.trans hnone

@[simp]
theorem status_applyMode (gpu : Gpu) : gpu.applyMode.status = gpu.status := by
  unfold applyMode
  split <;> rfl

/-- Thawing disarms the busy reads with the reset word of the first slot. -/
theorem busyReads_thaw (gpu : Gpu) {record : Freeze.Record}
    (hreset : Word.field record.control[0] 24 8 = 0) :
    (gpu.thaw record).status.busyReads = 0 := by
  have hfirst (gpu : Gpu) : (replaySlot record.control gpu 0).status.busyReads = 0 := by
    have hword : (gpu.writeControl record.control[0]).status = {} :=
      status_writeControl_of_reset gpu hreset
    exact congrArg Status.busyReads hword
  have hreplayed (gpu : Gpu) :
      (replayOrder.foldl (replaySlot record.control) gpu).status.busyReads = 0 :=
    replay_preserves (P := fun after => after.status.busyReads = 0)
      (fun _ word hnone => busyReads_writeControl hnone word) record.control
      [1, 2, 3, 8, 6, 7, 5, 4] (hfirst gpu)
  unfold thaw setRegisters Status.setWord
  dsimp only
  rw [status_applyMode]
  exact hreplayed _

/-! ## What is set again -/

variable (gpu : Gpu) (record : Freeze.Record)

@[simp]
theorem word_thaw : (gpu.thaw record).status.word = record.status :=
  rfl

@[simp]
theorem control_thaw : (gpu.thaw record).control = record.control :=
  rfl

/-- Video memory is loaded in front of the replay, and the replay leaves it alone. -/
@[simp]
theorem vram_thaw : (gpu.thaw record).vram = gpu.vram.load record.pixels := by
  unfold thaw setRegisters
  simp only [vram_applyMode, vram_replay]

variable {gpu record}

/-- The pixels are those of the record. -/
theorem pixels_thaw (hinitialized : gpu.isInitialized = true)
    (hsize : record.pixels.size = gpu.vram.size) :
    (gpu.thaw record).vram.pixels = record.pixels := by
  rw [vram_thaw]
  exact Vram.Memory.pixels_load hinitialized hsize

/-! ## Acceptance -/

/-- A record of the right version and image size is thawed. -/
theorem restore_of_fits (hinitialized : gpu.isInitialized = true)
    (hversion : record.version = Freeze.version) (hsize : record.pixels.size = gpu.vram.size) :
    gpu.restore record = (.ok (), gpu.thaw record) := by
  rw [restore, ifInitialized, if_pos hinitialized, if_neg (not_not_intro hversion),
    if_neg (not_not_intro hsize)]

/-- A record is either thawed or refused; a refused one leaves no trace. -/
theorem restore_cases (gpu : Gpu) (record : Freeze.Record) :
    gpu.restore record = (.ok (), gpu.thaw record) ∨
      ∃ fault, gpu.restore record = (.error fault, gpu) := by
  unfold restore ifInitialized
  dsimp only
  split
  · split
    · exact .inr ⟨_, rfl⟩
    · split
      · exact .inr ⟨_, rfl⟩
      · exact .inl rfl
  · exact .inr ⟨_, rfl⟩

/-- What thawing keeps is kept by a request to restore, which may be refused. -/
theorem restore_preserves {P : Gpu → Prop} (hthaw : ∀ gpu record, P gpu → P (gpu.thaw record))
    {gpu : Gpu} (hgpu : P gpu) (record : Freeze.Record) : P (gpu.restore record).2 := by
  obtain hrestored | ⟨fault, hrestored⟩ := restore_cases gpu record
  · rw [hrestored]
    exact hthaw gpu record hgpu
  · rw [hrestored]
    exact hgpu

/-- The freeze operations of the host thaw a record or show a save slot, if they change anything. -/
theorem freeze_preserves {P : Gpu → Prop} (hthaw : ∀ gpu record, P gpu → P (gpu.thaw record))
    (hslot : ∀ gpu slot, P gpu → P { gpu with saveSlot := slot }) {gpu : Gpu} (hgpu : P gpu)
    (mode : FreezeMode) (buffer : Array UInt8) : P (gpu.freeze mode buffer).2.2 := by
  unfold freeze
  cases mode with
  | save =>
      dsimp only
      split <;> exact hgpu
  | info =>
      dsimp only
      split
      · exact hslot gpu _ hgpu
      · exact hgpu
  | load =>
      unfold ifInitialized restoreBytes
      dsimp only
      split
      · split
        · exact restore_preserves hthaw hgpu _
        · exact hgpu
      · exact hgpu

end GpuCore.Gpu
