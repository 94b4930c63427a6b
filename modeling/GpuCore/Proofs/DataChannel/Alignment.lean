import GpuCore.Proofs.DataChannel.Invariant
import GpuCore.Proofs.Operation.Reachable
import GpuCore.Proofs.Vram.Progress

/-!
# Uploads keep to whole words

An upload begins with its first pixel and takes two pixels with every word, so that it stands on a
pixel with an even number whenever a word comes.  A word can lack a second pixel to set only behind
the last pixel of an area with an odd number of them.

Main definitions:

- `Job.Aligned`: a job that stands on an even pixel of an area.
- `Gpu.UploadAligned`: the upload, if there is one, does.

Main results:

- `Job.Aligned.advance_eq_none_iff`: the words that hold a single pixel.
- `Gpu.Reachable.uploadAligned`: uploads are aligned in every reachable state.
-/

namespace GpuCore

/-! ## Jobs -/

namespace Vram.Job

variable {memory : Memory} {job next : Job}

/-- The next pixel has an even number in an area that fits. -/
def Aligned (memory : Memory) (job : Job) : Prop :=
  ∃ area count, area.Fits memory ∧ 2 * count < area.pixelCount ∧
    job = .at memory area (2 * count)

/-- A transfer starts on the pixel with the number zero. -/
theorem aligned_start {area : Area} (hfits : area.Fits memory) :
    (start memory area).Aligned memory :=
  ⟨area, 0, hfits, hfits.pixelCount_pos, start_eq_at memory area⟩

/-- Alignment has to do with the height of the image only. -/
theorem Aligned.of_height {after : Memory} (h : job.Aligned memory)
    (hheight : after.height = memory.height) : job.Aligned after := by
  obtain ⟨area, count, hfits, hcount, rfl⟩ := h
  exact ⟨area, count, fits_of_height hheight hfits, hcount,
    (at_of_height hheight area (2 * count)).symm⟩

/-- A word leaves an aligned job behind. -/
theorem Aligned.advanceWord (h : job.Aligned memory) (hnext : job.advanceWord memory = some next) :
    next.Aligned memory := by
  obtain ⟨area, count, hfits, hcount, rfl⟩ := h
  rw [advanceWord_at hfits hcount, rest] at hnext
  split at hnext
  · next hmore =>
      cases hnext
      exact ⟨area, count + 1, hfits, hmore, rfl⟩
  · cases hnext

/-- A word of an aligned job holds a single pixel exactly if it is the last word of an area with an
odd number of pixels. -/
theorem Aligned.advance_eq_none_iff (h : job.Aligned memory) :
    job.advance memory = none ↔
      job.advanceWord memory = none ∧ job.area.pixelCount % 2 = 1 := by
  obtain ⟨area, count, hfits, hcount, rfl⟩ := h
  have harea : (Job.at memory area (2 * count)).area = area := rfl
  rw [advance_at hfits hcount, advanceWord_at hfits hcount, harea, rest, rest]
  simp only [ite_eq_right_iff, reduceCtorEq, imp_false]
  omega

end Vram.Job

namespace Gpu

variable {gpu : Gpu}

/-- The upload, if there is one, stands on a pixel with an even number. -/
def UploadAligned (gpu : Gpu) : Prop :=
  ∀ job, gpu.upload.job = some job → job.Aligned gpu.vram

namespace UploadAligned

/-- The upload and the height of the image are all that matters. -/
theorem of_frame {before after : Gpu} (h : before.UploadAligned)
    (hheight : after.vram.height = before.vram.height)
    (hjob : after.upload.job = before.upload.job) : after.UploadAligned := by
  intro job hafter
  rw [hjob] at hafter
  exact (h job hafter).of_height hheight

/-- Without an upload there is nothing to align. -/
theorem of_none (hnone : gpu.upload.job = none) : gpu.UploadAligned := by
  intro job hjob
  rw [hnone] at hjob
  cases hjob

/-- An upload begins aligned. -/
theorem beginUpload (gpu : Gpu) (position size : UInt32) :
    (gpu.beginUpload position size).UploadAligned := by
  intro job hjob
  cases hjob
  exact Vram.Job.aligned_start (Vram.Area.fits_ofTransferWords gpu.vram position size)

end UploadAligned

/-! ## Words written to the data channel -/

/-- Setting the drawing environment does not touch the upload. -/
theorem upload_setEnvironment (gpu : Gpu) (index : Nat) (word : UInt32) :
    (gpu.setEnvironment index word).upload = gpu.upload := by
  unfold setEnvironment
  split
  case h_5 => simp only [setDrawOffset, emit]
  all_goals rfl

/-- A primitive does not touch the upload. -/
theorem upload_drawPrimitive (gpu : Gpu) (event? : Option Event) :
    (gpu.drawPrimitive event?).upload = gpu.upload := by
  unfold drawPrimitive
  split
  · rfl
  · cases event? with
    | none => rfl
    | some event => rfl

/-- A packet either leaves the upload alone or begins another one. -/
theorem upload_perform (gpu : Gpu) (family : Family) (words : List UInt32) :
    (gpu.perform family words).upload = gpu.upload ∨
      ∃ position size, gpu.perform family words = gpu.beginUpload position size := by
  unfold perform
  split
  case h_1 => exact .inl rfl
  case h_2 => exact .inl (upload_drawPrimitive gpu _)
  case h_3 => exact .inl (upload_drawPrimitive gpu _)
  case h_4 => exact .inl (upload_drawPrimitive gpu _)
  case h_5 =>
      refine .inl ?_
      unfold moveImage
      dsimp only
      split
      · rfl
      · simp only [emit]
  case h_6 => exact .inr ⟨_, _, rfl⟩
  case h_8 => exact .inl (upload_setEnvironment gpu _ _)
  all_goals exact .inl rfl

/-- A packet begins an upload or leaves it alone. -/
theorem UploadAligned.perform (h : gpu.UploadAligned) (family : Family) (words : List UInt32) :
    (gpu.perform family words).UploadAligned := by
  obtain hsame | ⟨position, size, hbegun⟩ := upload_perform gpu family words
  · exact h.of_frame (dataFrame_perform gpu family words).shape.1 (by rw [hsame])
  · rw [hbegun]
    exact beginUpload gpu position size

/-- A word of pixels takes an upload two pixels on, or ends it. -/
theorem UploadAligned.storePixels (h : gpu.UploadAligned) {job : Vram.Job}
    (hjob : gpu.upload.job = some job) (word : UInt32) :
    (gpu.storePixels job word).UploadAligned := by
  have hheight := (dataFrame_storePixels gpu job word).shape.1
  unfold Gpu.storePixels at hheight ⊢
  split
  · next rest hrest =>
      intro next hnext
      cases hnext
      rw [hrest] at hheight
      exact ((h job hjob).advanceWord hrest).of_height hheight
  · exact of_none rfl

/-- Words written to the data channel keep the upload aligned. -/
theorem keptOnPort_uploadAligned : KeptOnPort UploadAligned where
  collect _ h := h
  perform family words h := h.perform family words
  storePixels word hjob h := h.storePixels hjob word
  dropUpload _ _ := .of_none rfl
  showBusy _ h := h
  remember hheight _ h := h.of_frame hheight rfl

/-! ## Control words -/

/-- A control word keeps the job of the upload or abandons it. -/
theorem upload_writeControl (gpu : Gpu) (word : UInt32) :
    (gpu.writeControl word).upload.job = gpu.upload.job ∨
      (gpu.writeControl word).upload.job = none := by
  have hmoved (after : Gpu) (moved : Bool) : (after.emitMoved moved).upload = after.upload := by
    unfold emitMoved
    split <;> rfl
  refine obey_cases (motive := fun after => after.upload.job = gpu.upload.job ∨
    after.upload.job = none) (gpu.keepControl word) word ?reset ?drop ?acknowledge ?enable ?direct
    ?position ?columns ?lines ?mode ?query ?ignore <;> intro _
  case reset => exact .inr rfl
  case drop => exact .inr rfl
  case position => exact .inl (congrArg Vram.Transfer.job (hmoved _ _))
  case columns => exact .inl (congrArg Vram.Transfer.job (hmoved _ _))
  case lines => exact .inl (congrArg Vram.Transfer.job (hmoved _ _))
  case mode =>
      unfold setDisplayMode
      dsimp only
      split <;> exact .inl rfl
  all_goals exact .inl rfl

namespace UploadAligned

/-- A control word drops an upload, suspends it or takes it up again where it was. -/
theorem writeControl (h : gpu.UploadAligned) (word : UInt32) :
    (gpu.writeControl word).UploadAligned := by
  obtain hkept | hnone := upload_writeControl gpu word
  · exact h.of_frame (by rw [vram_writeControl]) hkept
  · exact of_none hnone

/-! ## Restoring -/

/-- Thawing replays control words on an image of the same height. -/
theorem thaw (h : gpu.UploadAligned) (record : Freeze.Record) :
    (gpu.thaw record).UploadAligned := by
  have hheight : (gpu.vram.load record.pixels).height = gpu.vram.height := by
    unfold Vram.Memory.load
    split <;> rfl
  have hloaded : UploadAligned
      { gpu.setRegisters record with vram := gpu.vram.load record.pixels } :=
    h.of_frame hheight rfl
  have hreplayed := replay_preserves (P := UploadAligned)
    (fun _ word hgpu => hgpu.writeControl word) record.control replayOrder hloaded
  have hframe := periodFrame_applyMode
    (replayOrder.foldl (replaySlot record.control)
      { gpu.setRegisters record with vram := gpu.vram.load record.pixels })
  refine hreplayed.of_frame ?height ?job
  case height => exact congrArg (fun after => after.vram.height) hframe.rest
  case job => exact congrArg (fun after => after.upload.job) hframe.rest

/-- A record that is read from bytes keeps uploads aligned, taken over or refused. -/
theorem restoreBytes (h : gpu.UploadAligned) (bytes : Array UInt8) :
    (gpu.restoreBytes bytes).2.UploadAligned := by
  unfold Gpu.restoreBytes
  split
  · exact restore_preserves (fun _ record hgpu => hgpu.thaw record) h _
  · exact h

/-! ## Every operation -/

/-- Uploads are aligned behind every operation. -/
theorem apply (h : gpu.UploadAligned) (operation : Operation) :
    (gpu.apply operation).UploadAligned := by
  have hthaw (gpu : Gpu) (record : Freeze.Record) (hgpu : gpu.UploadAligned) :
      (gpu.thaw record).UploadAligned := hgpu.thaw record
  cases operation with
  | powerOn => exact of_none rfl
  | powerOff => exact h.of_frame rfl rfl
  | reset => exact of_none rfl
  | configure settings => exact h.of_frame rfl rfl
  | writeData words => exact keptOnPort_uploadAligned.writeData words h
  | writeControl word => exact h.writeControl word
  | readInto slots =>
      rw [Gpu.apply, state_readInto, (readFrame_readData gpu slots.length).rest]
      exact h
  | readWord =>
      rw [Gpu.apply, state_readWord, (readFrame_readData gpu 1).rest]
      exact h
  | readStatus =>
      rw [Gpu.apply, readStatus_rest]
      exact h
  | endPeriod pause =>
      rw [Gpu.apply, (periodFrame_endPeriod gpu pause).rest]
      exact h
  | followChain memory address => exact keptOnPort_uploadAligned.followChain memory address h
  | freeze mode buffer => exact freeze_preserves hthaw (fun _ _ hgpu => hgpu) h mode buffer
  | restore record => exact restore_preserves hthaw h record
  | adjustPace adjustment => exact h

end UploadAligned

/-- In every reachable state the upload is aligned, by induction on the operations that lead
there. -/
theorem Reachable.uploadAligned (hgpu : Reachable gpu) : gpu.UploadAligned := by
  induction hgpu with
  | create settings pacer => exact .of_none rfl
  | operate _ _ ih => exact ih.apply _
  | restore _ _ _ ih _ => exact ih.apply _
  | load _ _ _ _ ih _ => exact ih.apply _
  | takeOver _ _ _ ih _ => exact ih.restoreBytes _

end Gpu

end GpuCore
