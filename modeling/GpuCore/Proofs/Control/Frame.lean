import GpuCore.Gpu.Control
import GpuCore.Proofs.Status.Bits

/-!
# What control words leave alone

Control words set the display, select a direction, reset or ask.  They do not touch video memory,
and but for a reset they change only the status bits that show what they set.

Main definitions:

- `Gpu.ControlFrame`: two states that agree on all that no control word reaches.

Main results:

- `Gpu.obey_cases`: one case for every control command.
- `Gpu.controlFrame_obey`: a control word stays within the frame.
- `Gpu.obey_status`: a control word resets the status register or changes only its own groups.
-/

namespace GpuCore

/-- The status bits that control words other than a reset change. -/
def Status.Mask.control : UInt32 :=
  interrupt ||| direction ||| readyForPixels ||| displayDisabled ||| widthBits ||| interlaced |||
    pal ||| doubleHeight ||| rgb24

namespace Gpu

/-! ## Commands -/

/-- To show something of the state after a control word it suffices to show it after every
command. -/
theorem obey_cases {motive : Gpu → Prop} (gpu : Gpu) (word : UInt32)
    (reset : Word.field word 24 8 = 0 → motive gpu.resetCommands)
    (drop : Word.field word 24 8 = 1 → motive gpu.dropTransfers)
    (acknowledge : Word.field word 24 8 = 2 →
      motive { gpu with status := gpu.status.unset Status.Mask.interrupt })
    (enable : Word.field word 24 8 = 3 → motive (gpu.setDisplayEnabled (Word.flag word 0)))
    (direct : Word.field word 24 8 = 4 → motive (gpu.selectDirection (word &&& 3)))
    (position : Word.field word 24 8 = 5 → motive (gpu.setDisplayPosition word))
    (columns : Word.field word 24 8 = 6 → motive (gpu.setDisplayColumns word))
    (lines : Word.field word 24 8 = 7 → motive (gpu.setDisplayLines word))
    (mode : Word.field word 24 8 = 8 → motive (gpu.setDisplayMode word))
    (query : 8 < Word.field word 24 8 → motive (gpu.answerQuery word))
    (ignore : 8 < Word.field word 24 8 → motive gpu) :
    motive (gpu.obey word) := by
  unfold obey
  split
  case h_1 h => exact reset h
  case h_2 h => exact drop h
  case h_3 h => exact acknowledge h
  case h_4 h => exact enable h
  case h_5 h => exact direct h
  case h_6 h => exact position h
  case h_7 h => exact columns h
  case h_8 h => exact lines h
  case h_9 h => exact mode h
  case h_10 h0 h1 h2 h3 h4 h5 h6 h7 h8 =>
      have hlarge : 8 < Word.field word 24 8 := by grind
      split
      · exact query hlarge
      · exact ignore hlarge

/-! ## The frame -/

/-- `after` differs from `before` only in display, status register, packets, transfers, latches,
drawing mode, data word, pacer and events. -/
structure ControlFrame (before after : Gpu) : Prop where
  settings : after.settings = before.settings
  vram : after.vram = before.vram
  control : after.control = before.control
  skipping : after.skipping = before.skipping
  statusReads : after.statusReads = before.statusReads
  saveSlot : after.saveSlot = before.saveSlot

theorem ControlFrame.refl (gpu : Gpu) : ControlFrame gpu gpu :=
  ⟨rfl, rfl, rfl, rfl, rfl, rfl⟩

theorem ControlFrame.withDisplay {before after : Gpu} (h : ControlFrame before after)
    (display : Display) : ControlFrame before { after with display := display } :=
  { h with }

theorem ControlFrame.emitMoved {before after : Gpu} (h : ControlFrame before after)
    (moved : Bool) : ControlFrame before (after.emitMoved moved) := by
  unfold Gpu.emitMoved
  split
  · exact { h with }
  · exact h

theorem controlFrame_obey (gpu : Gpu) (word : UInt32) : ControlFrame gpu (gpu.obey word) := by
  have hrefl := ControlFrame.refl gpu
  refine obey_cases gpu word ?reset ?drop ?acknowledge ?enable ?direct ?position ?columns ?lines
    ?mode ?query ?ignore <;> intro _
  case reset => exact { hrefl with }
  case drop => exact { hrefl with }
  case acknowledge => exact { hrefl with }
  case enable => exact { hrefl with }
  case direct => exact { hrefl with }
  case position => exact (hrefl.withDisplay _).emitMoved _
  case columns => exact (hrefl.withDisplay _).emitMoved _
  case lines => exact (hrefl.withDisplay _).emitMoved _
  case mode =>
      simp only [setDisplayMode]
      split <;> exact { hrefl with }
  case query => exact { hrefl with }
  case ignore => exact hrefl

/-- Writing a control word touches its slot and otherwise stays within the frame. -/
theorem controlFrame_writeControl (gpu : Gpu) (word : UInt32) :
    ControlFrame (gpu.keepControl word) (gpu.writeControl word) :=
  controlFrame_obey (gpu.keepControl word) word

/-! ## The status register -/

/-- The groups that single commands write. -/
theorem control_groups {mask : UInt32} (hmask : mask &&& Status.Mask.control = 0) :
    mask &&& Status.Mask.interrupt = 0 ∧ mask &&& Status.Mask.direction = 0 ∧
      mask &&& Status.Mask.readyForPixels = 0 ∧ mask &&& Status.Mask.displayDisabled = 0 := by
  simp only [Status.Mask.control, Status.and_or_eq_zero_iff] at hmask
  simp only [hmask, and_self]

/-- A mode word changes only the bits that show a mode. -/
theorem bits_showMode_of_disjoint (display : Display) (word : UInt32) (status : Status)
    {mask : UInt32} (hmask : mask &&& Status.Mask.control = 0) :
    (display.showMode word status).bits mask = status.bits mask := by
  simp only [Status.Mask.control, Status.and_or_eq_zero_iff] at hmask
  obtain ⟨⟨⟨⟨⟨_, hwidth⟩, hinterlaced⟩, hpal⟩, hheight⟩, hrgb24⟩ := hmask
  unfold Display.showMode
  rw [Status.bits_assign_of_disjoint _ _ hrgb24, Status.bits_assign_of_disjoint _ _ hheight,
    Status.bits_assign_of_disjoint _ _ hpal, Status.bits_assign_of_disjoint _ _ hinterlaced,
    Status.bits_replace_of_disjoint _ _ hwidth]

@[simp]
theorem status_emitMoved (gpu : Gpu) (moved : Bool) :
    (gpu.emitMoved moved).status = gpu.status := by
  unfold emitMoved
  split <;> rfl

/-- A mode word shows the mode that it stages. -/
@[simp]
theorem status_setDisplayMode (gpu : Gpu) (word : UInt32) :
    (gpu.setDisplayMode word).status =
      (gpu.display.stageMode word).showMode word gpu.status := by
  unfold setDisplayMode
  dsimp only
  split <;> rfl

/-- A mode word stages a mode. -/
@[simp]
theorem display_setDisplayMode (gpu : Gpu) (word : UInt32) :
    (gpu.setDisplayMode word).display = gpu.display.stageMode word := by
  unfold setDisplayMode
  dsimp only
  split <;> rfl

/-- `after` is the power-on status register, or has the busy reads of `before` and all its bits
outside the groups of control words. -/
def StatusObeys (before after : Status) : Prop :=
  after = {} ∨
    after.busyReads = before.busyReads ∧
      ∀ mask, mask &&& Status.Mask.control = 0 → after.bits mask = before.bits mask

/-- A control word either puts the status register back to power-on, or keeps the busy reads and
all bits but those of its own groups. -/
theorem obey_status (gpu : Gpu) (word : UInt32) :
    StatusObeys gpu.status (gpu.obey word).status := by
  have hsame : StatusObeys gpu.status gpu.status := .inr ⟨rfl, fun _ _ => rfl⟩
  refine obey_cases (motive := fun after => StatusObeys gpu.status after.status) gpu word
    ?reset ?drop ?acknowledge ?enable ?direct ?position ?columns ?lines ?mode ?query ?ignore
    <;> intro _
  case reset => exact .inl rfl
  case drop =>
      refine .inr ⟨rfl, fun mask hmask => ?_⟩
      exact Status.bits_unset_of_disjoint gpu.status (control_groups hmask).2.2.1
  case acknowledge =>
      refine .inr ⟨rfl, fun mask hmask => ?_⟩
      exact Status.bits_unset_of_disjoint gpu.status (control_groups hmask).1
  case enable =>
      refine .inr ⟨Status.busyReads_assign _ _, fun mask hmask => ?_⟩
      exact Status.bits_assign_of_disjoint gpu.status _ (control_groups hmask).2.2.2
  case direct =>
      refine .inr ⟨rfl, fun mask hmask => ?_⟩
      exact Status.bits_replace_of_disjoint gpu.status _ (control_groups hmask).2.1
  case position =>
      rw [setDisplayPosition, status_emitMoved]
      exact hsame
  case columns => exact hsame
  case lines =>
      rw [setDisplayLines, status_emitMoved]
      exact hsame
  case mode =>
      rw [status_setDisplayMode]
      refine .inr ⟨?_, fun mask hmask => bits_showMode_of_disjoint _ _ _ hmask⟩
      simp only [Display.showMode, Status.busyReads_assign]
      rfl
  case query => exact hsame
  case ignore => exact hsame

end Gpu

end GpuCore
