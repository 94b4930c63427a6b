import GpuCore.Primitive.Sprite
import GpuCore.Proofs.Primitive.Slot

/-!
# The layout of sprites

Behind the command word and the vertex a sprite has a slot for its texture word if it is textured,
and a slot for its size if the opcode does not prescribe one.

Main definitions:

- `Sprite.slots` and `Sprite.ofSlots`: the slots of a sprite, and a sprite read off them.

Main results:

- `Sprite.length_eq_slots`: the table of lengths has the slots of the sprites.
- `Sprite.decode?_eq`: the decoder takes everything from its slot.
- `Sprite.readsWhole`: packets of the length in the table are read as a whole.
-/

namespace GpuCore.Sprite

open Packet

/-! ## Layout -/

/-- Slots of the sprite that a command word begins. -/
def slots (command : UInt32) : Nat :=
  2 + (Word.flag command 26).toNat + (side? command).isNone.toNat

/-- The sprite of a packet, read off its slots. -/
def ofSlots (words : List UInt32) : Sprite :=
  let command := slot words 0
  let textured := Word.flag command 26
  let size := slot words (2 + textured.toNat)
  { position := .ofWord (slot words 1)
    width := (side? command).getD (Word.field size 0 10)
    height := (side? command).getD (Word.field size 16 9)
    color := .ofWord command
    texture := if textured then .ofWord (slot words 2) else {}
    colorTable := if textured then Word.high (slot words 2) else 0
    textured
    semiTransparent := Word.flag command 25
    rawTexture := Word.flag command 24 }

/-- The size is variable when the two bits that select it are clear. -/
theorem isNone_side? (command : UInt32) :
    (side? command).isNone = decide ((Word.command command).toNat / 8 % 4 = 0) := by
  have hfield : Word.field command 27 2 = (Word.command command).toNat / 8 % 4 := by
    rw [Word.toNat_command]
    simp only [Word.field, Nat.pow_eq, Nat.reducePow]
    omega
  unfold side?
  rw [hfield]
  split
  · next hzero => simp [hzero]
  · next hone => simp [hone]
  · next htwo => simp [htwo]
  · next hzero _ _ =>
      have hne : ¬ (Word.command command).toNat / 8 % 4 = 0 := hzero
      simp [hne]

/-- The table of lengths has the slots of the sprites. -/
theorem length_eq_slots {command : UInt32}
    (hkind : 0x60 ≤ Word.command command ∧ Word.command command ≤ 0x7F) :
    length (Word.command command) = slots command := by
  have htable : ∀ code : Fin 256, 0x60 ≤ code.val ∧ code.val ≤ 0x7F →
      lengths.get code =
        2 + (code.val.testBit 2).toNat + (decide (code.val / 8 % 4 = 0)).toNat := by
    decide +kernel
  rw [slots, isNone_side?, ← Word.testBit_command command (i := 2) (by decide)]
  refine htable ⟨_, (Word.command command).toNat_lt⟩ ?_
  simpa [UInt8.le_iff_toNat_le] using hkind

/-! ## Decoding -/

/-- The decoder asks for as many words as the layout has slots, and takes everything from its
slot. -/
theorem decode?_eq (command : UInt32) (rest : List UInt32) :
    decode? (command :: rest) =
      if slots command ≤ (command :: rest).length then
        some (ofSlots (command :: rest))
      else
        none := by
  -- Without a texture word the decoder reads the word 0 instead.
  have hplain : TexCoord.ofWord 0 = {} ∧ Word.high 0 = 0 := by decide
  rcases rest with _ | ⟨vertex, _ | ⟨second, _ | ⟨third, rest⟩⟩⟩ <;>
    cases htextured : Word.flag command 26 <;> cases hside : side? command <;>
    simp [decode?, readTexture?, readSize?, slots, ofSlots, htextured, hside, hplain]

/-- A sprite does not depend on the words behind it. -/
theorem ofSlots_append {command : UInt32} {rest : List UInt32}
    (hroom : slots command ≤ (command :: rest).length) (more : List UInt32) :
    ofSlots (command :: rest ++ more) = ofSlots (command :: rest) := by
  have hslot (index : Nat) (hindex : index < slots command) :
      slot (command :: (rest ++ more)) index = slot (command :: rest) index :=
    slot_append (Nat.lt_of_lt_of_le hindex hroom) more
  have hvertex := hslot 1 (by unfold slots; omega)
  cases htextured : Word.flag command 26 <;> cases hside : side? command
  · have hsize := hslot 2 (by simp [slots, htextured, hside])
    simp [ofSlots, htextured, hside, hvertex, hsize]
  · simp [ofSlots, htextured, hside, hvertex]
  · have htexture := hslot 2 (by simp [slots, htextured, hside])
    have hsize := hslot 3 (by simp [slots, htextured, hside])
    simp [ofSlots, htextured, hside, hvertex, htexture, hsize]
  · have htexture := hslot 2 (by simp [slots, htextured, hside])
    simp [ofSlots, htextured, hside, hvertex, htexture]

/-- A sprite packet of the length in the table is read as a whole. -/
theorem readsWhole {command : UInt32} {rest : List UInt32}
    (hkind : 0x60 ≤ Word.command command ∧ Word.command command ≤ 0x7F)
    (hlength : (command :: rest).length = length (Word.command command)) :
    ReadsWhole decode? (command :: rest) (ofSlots (command :: rest)) := by
  rw [length_eq_slots hkind] at hlength
  refine readsWhole_of_length rfl (decode?_eq command) ?_ hlength
  exact ofSlots_append (Nat.le_of_eq hlength.symm)

end GpuCore.Sprite
