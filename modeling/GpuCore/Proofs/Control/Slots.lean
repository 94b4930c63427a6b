import GpuCore.Proofs.Operation.Frame

/-!
# Control slots

A control slot holds the last word of its own opcode, or zero as long as there was none.

Main definitions:

- `Gpu.OwnSlots`: every slot holds zero or a word of its own opcode.

Main results:

- `Gpu.control_writeControl`: a control word is kept in the slot of its opcode.
- `Gpu.ownSlots_apply`: no operation but restoring puts a word into a foreign slot.
-/

namespace GpuCore

namespace Gpu

/-- Every slot holds zero or a word of its own opcode. -/
def OwnSlots (control : Vector UInt32 controlSlots) : Prop :=
  ∀ slot (_ : slot < controlSlots), control[slot] = 0 ∨ Word.field control[slot] 24 8 = slot

/-- The first slot holds a reset word, since zero is one. -/
theorem OwnSlots.reset {control : Vector UInt32 controlSlots} (h : OwnSlots control) :
    Word.field control[0] 24 8 = 0 := by
  cases h 0 (by decide) with
  | inl hzero =>
      rw [hzero]
      rfl
  | inr hfield => exact hfield

theorem ownSlots_replicate : OwnSlots (Vector.replicate controlSlots 0) :=
  fun _ _ => .inl (Vector.getElem_replicate _)

/-- A control word is kept in the slot of its opcode and nowhere else. -/
theorem control_writeControl (gpu : Gpu) (word : UInt32) :
    (gpu.writeControl word).control =
      gpu.control.set (Word.command word).toNat word (Word.command word).toNat_lt :=
  (controlFrame_writeControl gpu word).control

theorem ownSlots_writeControl {gpu : Gpu} (h : OwnSlots gpu.control) (word : UInt32) :
    OwnSlots (gpu.writeControl word).control := by
  intro slot hslot
  rw [control_writeControl, Vector.getElem_set]
  split
  · next hown =>
      refine .inr ?_
      rw [← Word.toNat_command, hown]
  · exact h slot hslot

/-- No operation but restoring puts a word into a foreign slot. -/
theorem ownSlots_apply {gpu : Gpu} (h : OwnSlots gpu.control) (operation : Operation)
    (hlive : operation.restores = false) : OwnSlots (gpu.apply operation).control := by
  have hquiet (hwrites : operation.writesControl = false) :
      OwnSlots (gpu.apply operation).control := by
    rwa [(quietFrame_apply gpu operation hwrites hlive).control]
  cases operation with
  | powerOn => exact ownSlots_replicate
  | reset => exact ownSlots_replicate
  | writeControl word => exact ownSlots_writeControl h word
  | _ => exact hquiet rfl

end Gpu

end GpuCore
