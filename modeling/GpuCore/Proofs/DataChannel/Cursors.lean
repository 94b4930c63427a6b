import GpuCore.Proofs.DataChannel.Invariant
import GpuCore.Proofs.Operation.Frame
import GpuCore.Proofs.Vram.Progress

/-!
# The cursors of both transfers

An upload and a download may be begun, suspended, taken up again, begun anew and abandoned at any
pixel, by words on both ports, by reads and by resets.  Each of them is over or stands on a pixel of
the area it was begun with, and the status register announces pixels exactly as long as the download
has some left, whether or not its direction is selected.

Main definitions:

- `Gpu.Streams`: both transfers are within their areas, and pixels of the download are announced.

Main results:

- `Gpu.keptOnPort_streams`: words written to the data channel keep this.
- `Gpu.Streams.obey` and `Gpu.Streams.readData`: so do control words and reads.
- `Gpu.Streams.apply` and `Gpu.Streams.run`: so does every operation that does not restore, and
  every run of them.
- `Gpu.cursors_wellFormed`: counters and cursors after any such run of a new processor.
-/

namespace GpuCore

/-! ## Announcements -/

namespace Status

/-- A group that keeps its bits is still set or still clear. -/
theorem any_of_bits_eq {before after : Status} {mask : UInt32}
    (hbits : after.bits mask = before.bits mask) : after.any mask = before.any mask := by
  rw [any, any, hbits]

/-- Bits that were set are found set. -/
theorem any_set_self (status : Status) {mask : UInt32} (hmask : mask ≠ 0) :
    (status.set mask).any mask = true := by
  rw [any, bits_set_self, bne_iff_ne]
  exact hmask

/-- Bits that were cleared are not found set. -/
theorem any_unset_self (status : Status) (mask : UInt32) :
    (status.unset mask).any mask = false := by
  rw [any, bits_unset_self]
  rfl

end Status

namespace Gpu

/-- Both transfers are over or within the area they were begun with, and the status register
announces pixels as long as the download has some left. -/
structure Streams (gpu : Gpu) : Prop where
  upload : ∀ job, gpu.upload.job = some job → job.Within gpu.vram
  download : ∀ job, gpu.download.job = some job → job.Within gpu.vram
  announced : gpu.status.any Status.Mask.readyForPixels = gpu.download.job.isSome

namespace Streams

variable {gpu : Gpu}

/-- The jobs, the height of the image and the announcement are all that matters. -/
theorem of_frame {before after : Gpu} (h : before.Streams)
    (hheight : after.vram.height = before.vram.height)
    (hupload : after.upload.job = before.upload.job)
    (hdownload : after.download.job = before.download.job)
    (hready : after.status.bits Status.Mask.readyForPixels =
      before.status.bits Status.Mask.readyForPixels) : after.Streams where
  upload job hjob := (h.upload job (hupload ▸ hjob)).of_height hheight
  download job hjob := (h.download job (hdownload ▸ hjob)).of_height hheight
  announced := by
    rw [Status.any_of_bits_eq hready, hdownload]
    exact h.announced

/-- Pixels, latches, display and events have no part in it. -/
theorem withRest (h : gpu.Streams) {vram : Vram.Memory} (hshape : gpu.vram.SameShape vram)
    (latches : Latches) (display : Display) (events : Array Event) :
    Streams { gpu with
      vram := vram, latches := latches, display := display, events := events } :=
  h.of_frame hshape.1 rfl rfl rfl

/-- Nothing is in progress and nothing announced. -/
theorem of_none (hupload : gpu.upload.job = none) (hdownload : gpu.download.job = none)
    (hready : gpu.status.any Status.Mask.readyForPixels = false) : gpu.Streams where
  upload job hjob := by
    rw [hupload] at hjob
    cases hjob
  download job hjob := by
    rw [hdownload] at hjob
    cases hjob
  announced := by rw [hready, hdownload, Option.isSome_none]

/-! ## Words written to the data channel -/

/-- Setting the drawing environment leaves both transfers alone. -/
theorem setEnvironment (h : gpu.Streams) (index : Nat) (word : UInt32) :
    (gpu.setEnvironment index word).Streams := by
  have hsame := Vram.Memory.SameShape.refl gpu.vram
  unfold Gpu.setEnvironment
  split
  case h_1 =>
      exact h.of_frame rfl rfl rfl (Status.bits_replace_of_disjoint gpu.status word (by decide))
  case h_6 =>
      exact h.of_frame rfl rfl rfl (Status.bits_replace_of_disjoint gpu.status _ (by decide))
  case h_7 => exact h
  all_goals exact h.withRest hsame _ _ _

/-- An upload begins within its area. -/
theorem beginUpload (h : gpu.Streams) (position size : UInt32) :
    (gpu.beginUpload position size).Streams := by
  refine { h with upload := fun job hjob => ?_ }
  cases hjob
  exact Vram.Job.within_start (Vram.Area.fits_ofTransferWords gpu.vram position size)

/-- A download begins within its area and is announced. -/
theorem beginDownload (h : gpu.Streams) (position size : UInt32) :
    (gpu.beginDownload position size).Streams := by
  refine { h with download := fun job hjob => ?within, announced := ?announced }
  case within =>
      cases hjob
      exact Vram.Job.within_start (Vram.Area.fits_ofTransferWords gpu.vram position size)
  case announced => exact Status.any_set_self gpu.status (by decide)

/-- A packet begins a transfer or leaves both alone. -/
theorem perform (h : gpu.Streams) (family : Family) (words : List UInt32) :
    (gpu.perform family words).Streams := by
  have hdraw (event? : Option Event) : (gpu.drawPrimitive event?).Streams := by
    unfold drawPrimitive
    split
    · exact h
    · cases event? with
      | none => exact h
      | some event => exact h.of_frame rfl rfl rfl rfl
  unfold Gpu.perform
  split
  case h_1 => exact h.withRest (Vram.Memory.sameShape_fillArea _ _ _) _ _ _
  case h_2 => exact hdraw _
  case h_3 => exact hdraw _
  case h_4 => exact hdraw _
  case h_5 =>
      unfold moveImage
      dsimp only
      split
      · exact h
      · exact h.withRest (Vram.Memory.sameShape_writeArea _ _ _) _ _ _
  case h_6 => exact h.beginUpload _ _
  case h_7 => exact h.beginDownload _ _
  case h_8 => exact h.setEnvironment _ _
  case h_9 => exact h

/-- A data word stores pixels and leaves the rest of its job behind. -/
theorem storePixels (h : gpu.Streams) {job : Vram.Job} (hjob : gpu.upload.job = some job)
    (word : UInt32) : (gpu.storePixels job word).Streams := by
  have hwithin := h.upload job hjob
  have hheight := (Vram.Memory.sameShape_store job gpu.vram word).1
  have hstored : Streams { gpu with vram := job.store gpu.vram word } :=
    h.of_frame hheight rfl rfl rfl
  unfold Gpu.storePixels
  split
  · next rest hrest =>
      refine { hstored with upload := fun next hnext => ?_ }
      cases hnext
      exact (hwithin.advanceWord hrest).of_height hheight
  · exact { hstored with upload := fun _ hnext => by cases hnext }

end Streams

/-- Words written to the data channel keep both transfers within their areas. -/
theorem keptOnPort_streams : KeptOnPort Streams where
  collect _ h := h.of_frame rfl rfl rfl rfl
  perform family words h := h.perform family words
  storePixels word hjob h := h.storePixels hjob word
  dropUpload hnone h := h.of_frame rfl hnone.symm rfl rfl
  showBusy hbits h := h.of_frame rfl rfl rfl (hbits _ (by decide))
  remember hheight _ h := h.of_frame hheight rfl rfl rfl

namespace Streams

variable {gpu : Gpu}

/-- No pixels are announced at power-on. -/
theorem any_readyForPixels_powerOn : ({} : Status).any Status.Mask.readyForPixels = false := by
  decide

/-! ## Reads -/

/-- Handing out words ends the announcement with the last of them. -/
theorem handOut (h : gpu.Streams) (count : Nat) : (gpu.handOut count).2.Streams := by
  unfold Gpu.handOut
  split
  case h_1 => exact h
  case h_2 =>
      exact { h with
        download := fun _ hjob => by cases hjob
        announced := Status.any_unset_self gpu.status _ }
  case h_3 count _ _ job hjob _ =>
      have hwithin := h.download job hjob
      dsimp only
      split
      · next rest hrest =>
          refine { h with download := fun next hnext => ?within, announced := ?announced }
          case within => exact hwithin.fetchWords count #[] hnext
          case announced =>
              dsimp only [Vram.Transfer.ofRest]
              rw [h.announced, hjob, hrest]
              rfl
      · next hrest =>
          refine { h with download := fun next hnext => ?within, announced := ?announced }
          case within => exact hwithin.fetchWords count #[] hnext
          case announced =>
              dsimp only [Vram.Transfer.ofRest]
              rw [Status.any_unset_self, hrest]
              rfl

/-- A read takes the download on within its area, and withdraws the announcement with its end. -/
theorem readData (h : gpu.Streams) (count : Nat) : (gpu.readData count).2.Streams := by
  unfold Gpu.readData ifInitialized
  split
  · dsimp only
    split
    · have hbusy : Streams { gpu with status := gpu.status.unset Status.Mask.idle } :=
        h.of_frame rfl rfl rfl (Status.bits_unset_of_disjoint gpu.status (by decide))
      exact (hbusy.handOut count).of_frame rfl rfl rfl
        (Status.bits_set_of_disjoint _ (by decide))
    · exact h
  · exact h

/-! ## Control words -/

/-- A reset abandons both transfers, and selecting a direction keeps their jobs. -/
theorem obey (h : gpu.Streams) (word : UInt32) : (gpu.obey word).Streams := by
  have hmoved {after : Gpu} (moved : Bool) (hafter : after.Streams) :
      (after.emitMoved moved).Streams := by
    unfold emitMoved
    split
    · exact hafter.of_frame rfl rfl rfl rfl
    · exact hafter
  refine obey_cases gpu word ?reset ?drop ?acknowledge ?enable ?direct ?position ?columns ?lines
    ?mode ?query ?ignore <;> intro _
  case reset => exact of_none rfl rfl any_readyForPixels_powerOn
  case drop => exact of_none rfl rfl (Status.any_unset_self gpu.status _)
  case acknowledge =>
      exact h.of_frame rfl rfl rfl (Status.bits_unset_of_disjoint gpu.status (by decide))
  case enable =>
      exact h.of_frame rfl rfl rfl (Status.bits_assign_of_disjoint gpu.status _ (by decide))
  case direct =>
      exact h.of_frame rfl rfl rfl (Status.bits_replace_of_disjoint gpu.status _ (by decide))
  case position => exact hmoved _ (h.of_frame rfl rfl rfl rfl)
  case columns => exact hmoved _ (h.of_frame rfl rfl rfl rfl)
  case lines => exact hmoved _ (h.of_frame rfl rfl rfl rfl)
  case mode =>
      have hkept : (gpu.setDisplayMode word).vram = gpu.vram ∧
          (gpu.setDisplayMode word).upload = gpu.upload ∧
          (gpu.setDisplayMode word).download = gpu.download := by
        unfold setDisplayMode
        dsimp only
        split <;> exact ⟨rfl, rfl, rfl⟩
      obtain ⟨hvram, hupload, hdownload⟩ := hkept
      refine h.of_frame (by rw [hvram]) (by rw [hupload]) (by rw [hdownload]) ?_
      rw [status_setDisplayMode]
      unfold Display.showMode
      simp (disch := decide) only [Status.bits_assign_of_disjoint, Status.bits_replace_of_disjoint]
  case query => exact h.of_frame rfl rfl rfl rfl
  case ignore => exact h

/-- A control word drops both transfers with the announcement, or keeps them where they are. -/
theorem writeControl (h : gpu.Streams) (word : UInt32) : (gpu.writeControl word).Streams := by
  have hkept : (gpu.keepControl word).Streams := h.of_frame rfl rfl rfl rfl
  exact hkept.obey word

/-! ## Every operation -/

/-- No transfer is on its way in a processor that is created. -/
theorem create (settings : Settings) (pacer : Pacing.Pacer) : (create settings pacer).Streams :=
  of_none rfl rfl any_readyForPixels_powerOn

/-- A reset abandons both transfers. -/
theorem reset (gpu : Gpu) : gpu.reset.Streams :=
  of_none rfl rfl any_readyForPixels_powerOn

/-- Every operation that does not restore keeps both transfers within their areas. -/
theorem apply (h : gpu.Streams) (operation : Operation) (hlive : operation.restores = false) :
    (gpu.apply operation).Streams := by
  cases operation with
  | powerOn => exact reset _
  | powerOff => exact h.of_frame rfl rfl rfl rfl
  | reset => exact reset gpu
  | configure settings => exact h.of_frame rfl rfl rfl rfl
  | writeData words => exact keptOnPort_streams.writeData words h
  | writeControl word => exact h.writeControl word
  | readInto slots =>
      rw [Gpu.apply, state_readInto]
      exact h.readData slots.length
  | readWord =>
      rw [Gpu.apply, state_readWord]
      exact h.readData 1
  | readStatus =>
      have hready := @bits_readStatus_of_disjoint gpu Status.Mask.readyForPixels (by decide)
      refine h.of_frame ?height ?upload ?download hready
      case height => rw [Gpu.apply, readStatus_rest]
      case upload => rw [Gpu.apply, readStatus_rest]
      case download => rw [Gpu.apply, readStatus_rest]
  | endPeriod pause =>
      have hframe := periodFrame_endPeriod gpu pause
      refine h.of_frame ?height ?upload ?download (hframe.status _ (by decide))
      case height => rw [Gpu.apply, hframe.rest]
      case upload => rw [Gpu.apply, hframe.rest]
      case download => rw [Gpu.apply, hframe.rest]
  | followChain memory address => exact keptOnPort_streams.followChain memory address h
  | freeze mode buffer =>
      cases mode with
      | load => contradiction
      | save =>
          rw [Gpu.apply, freeze_save_rest]
          exact h
      | info =>
          rw [Gpu.apply, freeze_info_rest]
          exact h.of_frame rfl rfl rfl rfl
  | restore record => contradiction
  | adjustPace adjustment => exact h.of_frame rfl rfl rfl rfl

/-- So does every run, by induction on the operations. -/
theorem run (h : gpu.Streams) {operations : List Operation}
    (hlive : ∀ operation ∈ operations, operation.restores = false) :
    (gpu.run operations).Streams := by
  induction operations generalizing gpu with
  | nil => exact h
  | cons operation operations ih =>
      rw [List.forall_mem_cons] at hlive
      rw [run_cons]
      exact ih (h.apply operation hlive.1) hlive.2

end Streams

/-! ## Every history -/

/-- A transfer whose jobs are within their areas is over, or has well-formed counters. -/
theorem wellFormed_of_within {memory : Vram.Memory} {transfer : Vram.Transfer}
    (hwithin : ∀ job, transfer.job = some job → job.Within memory) :
    transfer = { streaming := transfer.streaming } ∧ transfer.progress = {} ∨
      transfer.progress.WellFormed memory := by
  obtain ⟨streaming, job⟩ := transfer
  cases job with
  | none => exact .inl ⟨rfl, rfl⟩
  | some job => exact .inr (hwithin job rfl).wellFormed

/-- Whatever is done to a new processor short of restoring, both transfers have nothing left but the
selection of their direction, or well-formed counters and a cursor on the pixel that these say is
next.  The status register announces pixels exactly while the download has some left. -/
theorem cursors_wellFormed (settings : Settings) (pacer : Pacing.Pacer)
    (operations : List Operation)
    (hlive : ∀ operation ∈ operations, operation.restores = false) :
    let gpu := (create settings pacer).run operations
    (∀ transfer ∈ [gpu.upload, gpu.download],
      transfer = { streaming := transfer.streaming } ∧ transfer.progress = {} ∨
        transfer.progress.WellFormed gpu.vram) ∧
      (gpu.status.any Status.Mask.readyForPixels = true ↔
        0 < gpu.download.progress.pixelsLeft) := by
  intro gpu
  have hstreams : gpu.Streams := (Streams.create settings pacer).run hlive
  refine ⟨?cursors, ?announced⟩
  case cursors =>
      rw [List.forall_mem_cons, List.forall_mem_cons]
      exact ⟨wellFormed_of_within hstreams.upload, wellFormed_of_within hstreams.download,
        fun _ hmem => absurd hmem List.not_mem_nil⟩
  case announced =>
      rw [hstreams.announced]
      cases hjob : gpu.download.job with
      | none => simp [Vram.Transfer.progress, hjob]
      | some job =>
          have hpixels := (hstreams.download job hjob).wellFormed.pixelsLeft_pos
          simp only [Vram.Transfer.progress, hjob, Option.isSome_some, Option.map_some,
            Option.getD_some, true_iff]
          exact hpixels

/-- A download that is suspended in the middle of a line, and an upload that is given up for another
one and then suspended too, while settings ask for the other height. -/
theorem cursors_wellFormed_suspended :
    let operations : List Operation :=
      [.powerOn, .writeData [0xC0000000, 0x01FF03FF, 0x00030003], .readWord,
        .writeControl 0x04000000, .writeData [0xA0000000, 0x000003FE, 0x00020005, 0x00020001],
        .writeControl 0x04000000, .writeData [0xA0000000, 0x00100010, 0x00040003, 1, 2],
        .writeControl 0x04000003, .configure { doubledMemory := true }, .endPeriod 0]
    let gpu := (create {} (.create {} 1000000)).run operations
    (∀ operation ∈ operations, operation.restores = false) ∧
      (∀ transfer ∈ [gpu.upload, gpu.download],
        transfer = { streaming := transfer.streaming } ∧ transfer.progress = {} ∨
          transfer.progress.WellFormed gpu.vram) ∧
        (gpu.status.any Status.Mask.readyForPixels = true ↔
          0 < gpu.download.progress.pixelsLeft) := by
  intro operations gpu
  have hlive : ∀ operation ∈ operations, operation.restores = false := by decide
  exact ⟨hlive, cursors_wellFormed {} (.create {} 1000000) operations hlive⟩

end Gpu

end GpuCore
