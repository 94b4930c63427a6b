import GpuCore.Packet.Length

/-!
# Slots of a packet

A packet is laid out in numbered slots, the command word in slot 0.  Which slot holds what depends
on a few bits of the opcode.

Main definitions:

- `Packet.slot`: the word in a slot.
- `Packet.ReadsWhole`: a decoder that takes a packet as it is, no word less and no word more.

Main results:

- `Packet.readsWhole_of_length`: decoders that ask for a number of words, and no more.
-/

namespace GpuCore.Packet

/-- The word in slot number `index`. -/
def slot (words : List UInt32) (index : Nat) : UInt32 :=
  words.getD index 0

@[simp]
theorem slot_cons_zero (word : UInt32) (words : List UInt32) : slot (word :: words) 0 = word :=
  rfl

@[simp]
theorem slot_cons_succ (word : UInt32) (words : List UInt32) (index : Nat) :
    slot (word :: words) (index + 1) = slot words index := by
  simp [slot]

@[simp]
theorem slot_drop (words : List UInt32) (count index : Nat) :
    slot (words.drop count) index = slot words (count + index) := by
  simp [slot]

/-- Slots of a packet are not affected by what follows it. -/
theorem slot_append {words : List UInt32} {index : Nat} (h : index < words.length)
    (rest : List UInt32) : slot (words ++ rest) index = slot words index := by
  simp only [slot, List.getD_eq_getElem?_getD, List.getElem?_append_left h]

theorem slot_cons_append {first : UInt32} {rest : List UInt32} {index : Nat}
    (h : index ≤ rest.length) (more : List UInt32) :
    slot (first :: (rest ++ more)) index = slot (first :: rest) index :=
  @slot_append (first :: rest) index (Nat.lt_succ_of_le h) more

/-- A decoder makes `value` of the packet, and so it does whatever follows; of fewer words it makes
nothing. -/
structure ReadsWhole {α : Type} (decode? : List UInt32 → Option α) (words : List UInt32)
    (value : α) : Prop where
  decodes : decode? words = some value
  stops (rest : List UInt32) : decode? (words ++ rest) = some value
  needs (count : Nat) : count < words.length → decode? (words.take count) = none

/-- A decoder that succeeds exactly on lists with enough words, and then looks at so many words
only, reads packets of that length as a whole. -/
theorem readsWhole_of_length {α : Type} {decode? : List UInt32 → Option α}
    {value : List UInt32 → α} {first : UInt32} {rest : List UInt32} {length : Nat}
    (hempty : decode? [] = none)
    (hdecode : ∀ rest, decode? (first :: rest) =
      if length ≤ (first :: rest).length then some (value (first :: rest)) else none)
    (hvalue : ∀ more, value (first :: rest ++ more) = value (first :: rest))
    (hlength : (first :: rest).length = length) :
    ReadsWhole decode? (first :: rest) (value (first :: rest)) where
  decodes := by
    rw [hdecode, if_pos (Nat.le_of_eq hlength.symm)]
  stops more := by
    have hlonger : length ≤ (first :: (rest ++ more)).length := by
      rw [← hlength, List.length_cons, List.length_cons, List.length_append]
      omega
    rw [List.cons_append, hdecode, if_pos hlonger, ← List.cons_append, hvalue]
  needs count hcount := by
    cases count with
    | zero => exact hempty
    | succ count =>
        have hshorter : ¬ length ≤ (first :: rest.take count).length := by
          rw [List.length_cons] at hlength hcount
          rw [List.length_cons, List.length_take]
          omega
        rw [List.take_succ_cons, hdecode, if_neg hshorter]

end GpuCore.Packet
