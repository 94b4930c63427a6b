import GpuCore.Primitive.Polygon
import GpuCore.Proofs.Primitive.Slot

/-!
# The layout of polygons

The corners of a polygon take equally many slots each.  In shaded polygons a corner begins with its
color, and the command word is the color of the first one; in flat polygons the corners follow the
command word, whose color they share.

Main definitions:

- `Polygon.stride` and `Polygon.slots`: the slots of a corner and of a whole polygon.
- `Polygon.cornerAt` and `Polygon.ofSlots`: a corner and a polygon, read off their slots.

Main results:

- `Polygon.length_eq_slots`: the table of lengths has room for the corners, and for no more.
- `Polygon.decode?_eq`: the decoder takes everything from its slot.
- `Polygon.readsWhole`: packets of the length in the table are read as a whole.
-/

namespace GpuCore.Polygon

open Packet

/-! ## Layout -/

/-- Slots of one corner: a vertex, with a color in shaded and a texture word in textured
polygons. -/
def stride (shaded textured : Bool) : Nat :=
  1 + shaded.toNat + textured.toNat

/-- Corners of the polygon that a command word begins. -/
def cornerCount (command : UInt32) : Nat :=
  if Word.flag command 27 then 4 else 3

/-- Slots of the polygon that a command word begins. -/
def slots (command : UInt32) : Nat :=
  let shaded := Word.flag command 28
  cornerCount command * stride shaded (Word.flag command 26) + (!shaded).toNat

/-- Corner number `index` of a polygon.  Its vertex follows its color, or what would be its color in
a shaded polygon, and its texture word follows the vertex. -/
def cornerAt (shaded textured : Bool) (words : List UInt32) (index : Nat) : Corner :=
  let vertex := index * stride shaded textured + 1
  { color := .ofWord (slot words (if shaded then index * stride shaded textured else 0))
    position := .ofWord (slot words vertex)
    texture := if textured then .ofWord (slot words (vertex + 1)) else {}
    selector := if textured then Word.high (slot words (vertex + 1)) else 0 }

/-- The polygon of a packet, read off its slots. -/
def ofSlots (words : List UInt32) : Polygon :=
  let command := slot words 0
  let shaded := Word.flag command 28
  let textured := Word.flag command 26
  { corners := (List.range (cornerCount command)).map (cornerAt shaded textured words)
    shaded
    textured
    semiTransparent := Word.flag command 25
    rawTexture := Word.flag command 24 }

/-- The table of lengths has the slots of the polygons. -/
theorem length_eq_slots {command : UInt32}
    (hkind : 0x20 ≤ Word.command command ∧ Word.command command ≤ 0x3F) :
    length (Word.command command) = slots command := by
  have hbit (i : Nat) (hi : i < 8) := (Word.testBit_command command hi).symm
  have htable : ∀ code : Fin 256, 0x20 ≤ code.val ∧ code.val ≤ 0x3F →
      lengths.get code =
        (if code.val.testBit 3 then 4 else 3) *
          stride (code.val.testBit 4) (code.val.testBit 2) + (!code.val.testBit 4).toNat := by
    decide +kernel
  rw [slots, cornerCount, hbit 4 (by decide), hbit 3 (by decide), hbit 2 (by decide)]
  refine htable ⟨_, (Word.command command).toNat_lt⟩ ?_
  simpa [UInt8.le_iff_toNat_le] using hkind

/-! ## Decoding -/

/-- The corner at the head of a list of words. -/
def headCorner (shaded textured : Bool) (base : Color) (words : List UInt32) : Corner :=
  { color := if shaded then .ofWord (slot words 0) else base
    position := .ofWord (slot words shaded.toNat)
    texture := if textured then .ofWord (slot words (shaded.toNat + 1)) else {}
    selector := if textured then Word.high (slot words (shaded.toNat + 1)) else 0 }

/-- Reading corners takes one corner off the head. -/
theorem readCorners?_succ (shaded textured : Bool) (base : Color) (count : Nat)
    (words : List UInt32) :
    readCorners? shaded textured base (count + 1) words =
      if stride shaded textured ≤ words.length then
        (readCorners? shaded textured base count (words.drop (stride shaded textured))).map
          (headCorner shaded textured base words :: ·)
      else
        none := by
  rcases words with _ | ⟨first, _ | ⟨second, _ | ⟨third, words⟩⟩⟩ <;>
    cases shaded <;> cases textured <;>
    simp [readCorners?, readCorner?, stride, headCorner, Option.map_eq_bind, Function.comp_def]

/-- Reading corners succeeds when there are enough words, and takes every corner from its place. -/
theorem readCorners?_eq (shaded textured : Bool) (base : Color) (count : Nat)
    (words : List UInt32) :
    readCorners? shaded textured base count words =
      if count * stride shaded textured ≤ words.length then
        some ((List.range count).map fun index =>
          headCorner shaded textured base (words.drop (index * stride shaded textured)))
      else
        none := by
  induction count generalizing words with
  | zero => simp [readCorners?]
  | succ count ih =>
      rw [readCorners?_succ, ih, Nat.succ_mul]
      by_cases henough : count * stride shaded textured + stride shaded textured ≤ words.length
      · rw [if_pos henough, if_pos (by omega), if_pos (by rw [List.length_drop]; omega)]
        simp [List.range_succ_eq_map, Nat.succ_mul, Nat.add_comm, Function.comp_def]
      · rw [if_neg henough]
        split
        · rw [if_neg (by rw [List.length_drop]; omega)]
          rfl
        · rfl

/-- The decoder reads corners, in shaded polygons from the command word on. -/
theorem decode?_cons (command : UInt32) (rest : List UInt32) :
    decode? (command :: rest) =
      (readCorners? (Word.flag command 28) (Word.flag command 26) (.ofWord command)
        (cornerCount command)
        (if Word.flag command 28 then command :: rest else rest)).map fun corners =>
          { corners
            shaded := Word.flag command 28
            textured := Word.flag command 26
            semiTransparent := Word.flag command 25
            rawTexture := Word.flag command 24 } := by
  have hcount : cornerCount command = (if Word.flag command 27 then 3 else 2) + 1 := by
    unfold cornerCount
    split <;> rfl
  rw [hcount]
  cases hshaded : Word.flag command 28 <;>
    simp [decode?, hshaded, readCorners?, Option.map_eq_bind, Function.comp_def, Option.bind_assoc]

/-- Corner number `index` lies at the head of the words that begin with its color or vertex. -/
theorem headCorner_drop (shaded textured : Bool) (command : UInt32) (rest : List UInt32)
    (index : Nat) :
    headCorner shaded textured (.ofWord command)
        ((if shaded then command :: rest else rest).drop (index * stride shaded textured)) =
      cornerAt shaded textured (command :: rest) index := by
  cases shaded <;> simp [headCorner, cornerAt]

/-- The decoder asks for as many words as the layout has slots, and takes everything from its
slot. -/
theorem decode?_eq (command : UInt32) (rest : List UInt32) :
    decode? (command :: rest) =
      if slots command ≤ (command :: rest).length then
        some (ofSlots (command :: rest))
      else
        none := by
  rw [decode?_cons, readCorners?_eq]
  simp only [headCorner_drop]
  cases hshaded : Word.flag command 28 <;> simp [slots, hshaded, ofSlots]

/-! ## Whole packets -/

/-- A corner does not depend on the words behind it. -/
theorem cornerAt_append (shaded textured : Bool) {words : List UInt32} {index : Nat}
    (hroom : (index + 1) * stride shaded textured + (!shaded).toNat ≤ words.length)
    (more : List UInt32) :
    cornerAt shaded textured (words ++ more) index = cornerAt shaded textured words index := by
  cases shaded <;> cases textured <;>
    simp only [cornerAt, stride, Bool.not_true, Bool.not_false, Bool.toNat_true,
      Bool.toNat_false, if_true, if_false, Bool.false_eq_true] at hroom ⊢ <;>
    simp (disch := omega) only [slot_append]

/-- A polygon does not depend on the words behind it. -/
theorem ofSlots_append {command : UInt32} {rest : List UInt32}
    (hroom : slots command ≤ (command :: rest).length) (more : List UInt32) :
    ofSlots (command :: rest ++ more) = ofSlots (command :: rest) := by
  have hcorners : ∀ index ∈ List.range (cornerCount command),
      cornerAt (Word.flag command 28) (Word.flag command 26) (command :: rest ++ more) index =
        cornerAt (Word.flag command 28) (Word.flag command 26) (command :: rest) index := by
    intro index hindex
    have hle : index + 1 ≤ cornerCount command := List.mem_range.1 hindex
    have hmul := Nat.mul_le_mul_right (stride (Word.flag command 28) (Word.flag command 26)) hle
    refine cornerAt_append _ _ (Nat.le_trans ?_ hroom) more
    exact Nat.add_le_add_right hmul _
  have hmap := List.map_congr_left hcorners
  simp only [ofSlots, List.cons_append, slot_cons_zero] at hmap ⊢
  rw [hmap]

/-- A polygon packet of the length in the table is read as a whole. -/
theorem readsWhole {command : UInt32} {rest : List UInt32}
    (hkind : 0x20 ≤ Word.command command ∧ Word.command command ≤ 0x3F)
    (hlength : (command :: rest).length = length (Word.command command)) :
    ReadsWhole decode? (command :: rest) (ofSlots (command :: rest)) := by
  rw [length_eq_slots hkind] at hlength
  refine readsWhole_of_length rfl (decode?_eq command) ?_ hlength
  exact ofSlots_append (Nat.le_of_eq hlength.symm)

end GpuCore.Polygon
