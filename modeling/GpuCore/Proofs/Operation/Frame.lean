import GpuCore.Operation
import GpuCore.Proofs.Display.Output

/-!
# What operations leave alone

Reads, the end of a period and the operations of the host change little of the state.  Together
with the frames of control words and of the data channel this says, operation by operation, what
cannot change.

Main definitions:

- `Gpu.ReadFrame` and `Gpu.PeriodFrame`: all but what reads, and the end of a period, write.
- `Operation.writesControl`: the operations that write control slots.
- `Gpu.QuietFrame`: control slots, output and the status bits that show it.

Main results:

- `Gpu.readFrame_readData` and `Gpu.periodFrame_endPeriod`: the two frames.
- `Gpu.pacer_endPeriod`: the end of a period is one wait of the pacer.
- `Gpu.quietFrame_apply`: operations that write no control slot leave output and slots alone.
-/

namespace GpuCore

/-- The status bits that reading from the data channel changes. -/
def Status.Mask.reading : UInt32 :=
  idle ||| readyForPixels

namespace Gpu

/-! ## Reading -/

/-- `after` differs from `before` only in the transfer out of video memory, the data word and the
status bits of `changed`. -/
structure ReadFrame (changed : UInt32) (before after : Gpu) : Prop where
  rest : after = { before with
    download := after.download, dataWord := after.dataWord, status := after.status }
  busyReads : after.status.busyReads = before.status.busyReads
  status : ∀ mask, mask &&& changed = 0 → after.status.bits mask = before.status.bits mask

theorem ReadFrame.refl (changed : UInt32) (gpu : Gpu) : ReadFrame changed gpu gpu :=
  ⟨rfl, rfl, fun _ _ => rfl⟩

/-- Handing out words withdraws the announcement of pixels at most. -/
theorem readFrame_handOut (gpu : Gpu) (count : Nat) :
    ReadFrame Status.Mask.readyForPixels gpu (gpu.handOut count).2 := by
  have hended (mask : UInt32) (hmask : mask &&& Status.Mask.readyForPixels = 0) :=
    Status.bits_unset_of_disjoint gpu.status hmask
  unfold handOut
  split
  case h_1 => exact .refl _ gpu
  case h_2 => exact ⟨rfl, rfl, hended⟩
  case h_3 =>
      dsimp only
      split
      · exact ⟨rfl, rfl, fun _ _ => rfl⟩
      · exact ⟨rfl, rfl, hended⟩

/-- Reading words is within the frame of reads. -/
theorem readFrame_readData (gpu : Gpu) (count : Nat) :
    ReadFrame Status.Mask.reading gpu (gpu.readData count).2 := by
  unfold readData ifInitialized
  split
  · dsimp only
    split
    · have hout := readFrame_handOut { gpu with status := gpu.status.unset Status.Mask.idle } count
      refine ⟨?rest, hout.busyReads, fun mask hmask => ?status⟩
      case rest =>
          rw [hout.rest]
      case status =>
          obtain ⟨hidle, hpixels⟩ := Status.and_or_eq_zero_iff.1 hmask
          rw [Status.bits_set_of_disjoint _ hidle, hout.status mask hpixels]
          exact Status.bits_unset_of_disjoint gpu.status hidle
    · exact .refl _ gpu
  · exact .refl _ gpu

@[simp]
theorem state_readInto (gpu : Gpu) (slots : List UInt32) :
    (gpu.readInto slots).2.2 = (gpu.readData slots.length).2 := by
  unfold readInto
  split
  · next hread => rw [hread]
  · next hread => rw [hread]

@[simp]
theorem state_readWord (gpu : Gpu) : gpu.readWord.2 = (gpu.readData 1).2 := by
  unfold readWord
  split
  · next hread => rw [hread]
  · next hread => rw [hread]

/-! ## The end of a period -/

/-- `after` differs from `before` only in the display, the pacer, the skipping of periods, the
events and the field bit, and the display is set to the same output. -/
structure PeriodFrame (before after : Gpu) : Prop where
  rest : after = { before with
    display := after.display, status := after.status, pacer := after.pacer,
    skipping := after.skipping, events := after.events }
  output : after.display.output = before.display.output
  busyReads : after.status.busyReads = before.status.busyReads
  status : ∀ mask, mask &&& Status.Mask.oddLines = 0 →
    after.status.bits mask = before.status.bits mask

theorem PeriodFrame.refl (gpu : Gpu) : PeriodFrame gpu gpu :=
  ⟨rfl, rfl, rfl, fun _ _ => rfl⟩

/-- The frame of two parts of the end of a period. -/
theorem PeriodFrame.trans {first second third : Gpu} (h : PeriodFrame first second)
    (h' : PeriodFrame second third) : PeriodFrame first third where
  rest := by
    rw [h'.rest, h.rest]
  output := h'.output.trans h.output
  busyReads := h'.busyReads.trans h.busyReads
  status mask hmask := (h'.status mask hmask).trans (h.status mask hmask)

/-- Applying a mode keeps the output, which is that of the pending mode all along. -/
theorem periodFrame_applyMode (gpu : Gpu) : PeriodFrame gpu gpu.applyMode := by
  unfold applyMode
  split
  · exact ⟨rfl, Display.output_commit gpu.display, rfl, fun _ _ => rfl⟩
  · exact .refl gpu

/-- Flipping the field changes the field bit and no other. -/
theorem periodFrame_flipField (gpu : Gpu) : PeriodFrame gpu gpu.flipField := by
  unfold flipField
  split
  · exact ⟨rfl, rfl, rfl, fun mask hmask => Status.bits_toggle_of_disjoint gpu.status hmask⟩
  · exact .refl gpu

/-- Presenting a frame changes the log, or the number of frames that are held back. -/
theorem periodFrame_present (gpu : Gpu) : PeriodFrame gpu gpu.present := by
  unfold present
  split
  · exact .refl gpu
  · split
    · exact ⟨rfl, rfl, rfl, fun _ _ => rfl⟩
    · exact ⟨rfl, rfl, rfl, fun _ _ => rfl⟩

/-- The end of a period is within the frame. -/
theorem periodFrame_endPeriod (gpu : Gpu) (pause : UInt64) :
    PeriodFrame gpu (gpu.endPeriod pause) := by
  have hflipped := (periodFrame_applyMode gpu).trans (periodFrame_flipField gpu.applyMode)
  have hwaited : PeriodFrame gpu.applyMode.flipField (gpu.applyMode.flipField.awaitPeriod pause) :=
    ⟨rfl, rfl, rfl, fun _ _ => rfl⟩
  have hpresented := periodFrame_present (gpu.applyMode.flipField.awaitPeriod pause)
  have hsettled (gpu : Gpu) :
      PeriodFrame gpu { gpu with display := { gpu.display with justInterlaced := false } } :=
    ⟨rfl, rfl, rfl, fun _ _ => rfl⟩
  exact ((hflipped.trans hwaited).trans hpresented).trans (hsettled _)

@[simp]
theorem pacer_applyMode (gpu : Gpu) : gpu.applyMode.pacer = gpu.pacer := by
  unfold applyMode
  split <;> rfl

@[simp]
theorem pacer_flipField (gpu : Gpu) : gpu.flipField.pacer = gpu.pacer := by
  unfold flipField
  split <;> rfl

@[simp]
theorem pacer_present (gpu : Gpu) : gpu.present.pacer = gpu.pacer := by
  unfold present
  split
  · rfl
  · split <;> rfl

/-- The pacer is asked once at the end of a period. -/
theorem pacer_endPeriod (gpu : Gpu) (pause : UInt64) :
    ∃ blocking odd, (gpu.endPeriod pause).pacer = (gpu.pacer.wait blocking odd pause).2 := by
  refine ⟨gpu.applyMode.flipField.settings.pacing.frameLimit,
    gpu.applyMode.flipField.isOddField, ?_⟩
  unfold endPeriod
  dsimp only
  rw [pacer_present]
  unfold awaitPeriod
  dsimp only
  rw [pacer_flipField, pacer_applyMode]

/-! ## Status reads -/

/-- A status read changes the count of status reads, the field bit and the polled bits. -/
theorem bits_readStatus_of_disjoint (gpu : Gpu) {mask : UInt32}
    (hmask : mask &&& (Status.Mask.oddLines ||| Status.Mask.available) = 0) :
    gpu.readStatus.2.status.bits mask = gpu.status.bits mask := by
  obtain ⟨hodd, hpolled⟩ := Status.and_or_eq_zero_iff.1 hmask
  have hcounted : gpu.countStatusRead.status.bits mask = gpu.status.bits mask := by
    unfold countStatusRead
    split
    · split
      · rfl
      · exact Status.bits_toggle_of_disjoint gpu.status hodd
    · rfl
  refine Eq.trans ?_ hcounted
  exact Status.bits_stepBusy_of_disjoint gpu.countStatusRead.status hpolled

/-- A status read leaves control slots and display alone. -/
theorem readStatus_rest (gpu : Gpu) :
    gpu.readStatus.2 = { gpu with
      statusReads := gpu.readStatus.2.statusReads, status := gpu.readStatus.2.status } := by
  unfold readStatus countStatusRead
  dsimp only
  split
  · split <;> rfl
  · rfl

@[simp]
theorem isInitialized_readStatus (gpu : Gpu) :
    gpu.readStatus.2.isInitialized = gpu.isInitialized := by
  rw [readStatus_rest]
  rfl

/-! ## Freezing -/

/-- Saving a state does not change it. -/
theorem freeze_save_rest (gpu : Gpu) (buffer : Array UInt8) :
    (gpu.freeze .save buffer).2.2 = gpu := by
  unfold freeze
  dsimp only
  split <;> rfl

/-- Showing a save slot changes only the slot that is shown. -/
theorem freeze_info_rest (gpu : Gpu) (buffer : Array UInt8) :
    (gpu.freeze .info buffer).2.2 =
      { gpu with saveSlot := (gpu.freeze .info buffer).2.2.saveSlot } := by
  unfold freeze
  dsimp only
  split <;> rfl

/-! ## Operations -/

end Gpu

/-- Whether an operation writes control slots. -/
def Operation.writesControl : Operation → Bool
  | powerOn | reset | writeControl _ => true
  | _ => false

namespace Gpu

/-- `after` has the control slots and the output of `before`, and its status register shows the
same. -/
structure QuietFrame (before after : Gpu) : Prop where
  control : after.control = before.control
  output : after.display.output = before.display.output
  shown : after.status.shown = before.status.shown

theorem QuietFrame.refl (gpu : Gpu) : QuietFrame gpu gpu :=
  ⟨rfl, rfl, rfl⟩

/-- What the data channel cannot reach includes output and control slots. -/
theorem DataFrame.quiet {before after : Gpu} (h : DataFrame Status.Mask.port before after) :
    QuietFrame before after where
  control := h.control
  output := by
    have hdrawing := congrArg Display.output h.display
    rwa [Display.output_withoutDrawing, Display.output_withoutDrawing] at hdrawing
  shown := Status.shown_of_frame (by decide) h.status

/-- Reading from the data channel reaches neither output nor control slots. -/
theorem ReadFrame.quiet {before after : Gpu} (h : ReadFrame Status.Mask.reading before after) :
    QuietFrame before after where
  control := by rw [h.rest]
  output := by rw [h.rest]
  shown := Status.shown_of_frame (by decide) h.status

/-- Operations that neither write control slots nor restore leave output and slots alone. -/
theorem quietFrame_apply (gpu : Gpu) (operation : Operation)
    (hwrites : operation.writesControl = false) (hrestores : operation.restores = false) :
    QuietFrame gpu (gpu.apply operation) := by
  cases operation with
  | powerOn => contradiction
  | powerOff => exact ⟨rfl, rfl, rfl⟩
  | reset => contradiction
  | configure settings => exact ⟨rfl, rfl, rfl⟩
  | writeData words => exact (dataFrame_writeData gpu words).quiet
  | writeControl word => contradiction
  | readInto slots =>
      rw [apply, state_readInto]
      exact (readFrame_readData gpu slots.length).quiet
  | readWord =>
      rw [apply, state_readWord]
      exact (readFrame_readData gpu 1).quiet
  | readStatus =>
      refine ⟨?_, ?_, Status.shown_of_frame (by decide) fun mask => bits_readStatus_of_disjoint gpu⟩
      · rw [apply, readStatus_rest]
      · rw [apply, readStatus_rest]
  | endPeriod pause =>
      have hframe := periodFrame_endPeriod gpu pause
      refine ⟨?_, hframe.output, Status.shown_of_frame (by decide) hframe.status⟩
      rw [apply, hframe.rest]
  | followChain memory address => exact (dataFrame_followChain gpu memory address).quiet
  | freeze mode buffer =>
      cases mode with
      | load => contradiction
      | save =>
          rw [apply, freeze_save_rest]
          exact .refl gpu
      | info =>
          rw [apply, freeze_info_rest]
          exact ⟨rfl, rfl, rfl⟩
  | restore record => contradiction
  | adjustPace adjustment => exact ⟨rfl, rfl, rfl⟩

end Gpu

end GpuCore
