import GpuCore.Packet.Slots
import GpuCore.Proofs.Packet.Segmentation

/-!
# The assembler in a fixed row of slots

What earlier packets left in the slots is never read again, and there is always a slot for the next
word.  So a row of slots that is not cleared hands out the packets that the assembler hands out,
which are those of the grammar.

Main definitions:

- `Packet.Slots.Holds`: the front of the row is the packet in progress of an assembler.

Main results:

- `Packet.Slots.Holds.push?`: the step, every word finds a slot.
- `Packet.Slots.Holds.pushAll?`: a run of the slots and of the assembler.
- `Packet.pushAll_eq_segment`: an idle assembler, however stale its slots, computes the cut of
  the stream.
-/

namespace GpuCore.Packet

/-- No packet has as many words as there are slots. -/
theorem length_lt_capacity (opcode : UInt8) : length opcode < capacity := by
  have hlt := opcode.toNat_lt
  rw [length_eq]
  generalize opcode.toNat = code at hlt
  revert code
  decide +kernel

namespace Slots

/-- The front of the row is the packet in progress of `assembler`, which is not complete. -/
structure Holds (slots : Slots) (assembler : Assembler) : Prop where
  opcode : slots.opcode = assembler.opcode
  expected : slots.expected = assembler.expected
  fill : slots.fill = assembler.pending.size
  received : slots.received = assembler.pending.size
  front : slots.row.toList.take assembler.pending.size = assembler.pending.toList
  incomplete : assembler.pending.size ≠ 0 → assembler.pending.size < assembler.expected

/-- An idle row holds nothing, whatever is left in it. -/
theorem holds_idle (row : Vector UInt32 capacity) : (idle row).Holds {} :=
  ⟨rfl, rfl, rfl, rfl, rfl, fun h => absurd rfl h⟩

/-- Behind the front of a row comes the word that is put there. -/
theorem take_set (row : Vector UInt32 capacity) (word : UInt32) {fill : Nat}
    (hroom : fill < capacity) :
    (row.set fill word hroom).toList.take (fill + 1) = row.toList.take fill ++ [word] := by
  have hfill : fill < row.toList.length := by simpa using hroom
  rw [Vector.toList_set, List.take_add_one, List.take_set_of_le (Nat.le_refl fill),
    List.getElem?_set_self hfill]
  rfl

variable {slots : Slots}

/-- The first word of a packet finds a slot. -/
theorem Holds.push?_idle (h : slots.Holds {}) (word : UInt32) :
    ∃ after, slots.push? word = some ((({} : Assembler).push word).1, after) ∧
      after.Holds (({} : Assembler).push word).2 := by
  have hidle : slots.expected = 0 := h.expected
  by_cases hlength : length (Word.command word) = 0
  · refine ⟨slots, ?_, ?_⟩
    · simp [Slots.push?, hidle, hlength, Assembler.push_discarded hlength]
    · rw [Assembler.push_discarded hlength]
      exact h
  · rw [Assembler.push_first_word hlength]
    have hfront : (slots.row.set 0 word (by decide)).toList.take 1 = [word] := take_set _ _ _
    by_cases hsingle : span word [] ≤ 1
    · have hdone := (Assembler.span_nil_le_iff word).1 hsingle
      refine ⟨idle (slots.row.set 0 word (by decide)), ?_, ?_⟩
      · simp [Slots.push?, hidle, hlength, begin, finish, reset, hsingle, hfront,
          Nat.not_lt.2 hdone]
      · rw [if_pos hsingle]
        exact holds_idle _
    · have hmore : 1 < length (Word.command word) := by
        rwa [Assembler.span_nil_le_iff, Nat.not_le] at hsingle
      refine ⟨slots.begin word (length (Word.command word)), ?_, ?_⟩
      · simp [Slots.push?, hidle, hlength, begin, finish, hsingle, hmore]
      · rw [if_neg hsingle]
        exact ⟨rfl, rfl, rfl, rfl, hfront, fun _ => hmore⟩

/-- The word that is put behind the front completes the packet, at its length or as the end of a
polyline, or is kept. -/
theorem finish_store (slots : Slots) (word : UInt32) (hroom : slots.fill < capacity) :
    (slots.store word hroom).finish =
      if slots.expected ≤ slots.fill + 1 ∨
          Assembler.endsPolyline slots.expected slots.fill word = true then
        (some ⟨slots.opcode, slots.row.toList.take slots.fill ++ [word]⟩,
          idle (slots.row.set slots.fill word hroom))
      else
        (none, slots.store word hroom) := by
  by_cases hends : Assembler.endsPolyline slots.expected slots.fill word = true
  · simp [finish, store, reset, hends, take_set]
  · by_cases hlast : slots.expected ≤ slots.fill + 1
    · simp [finish, store, reset, hends, hlast, take_set, Nat.not_lt.2 hlast]
    · simp [finish, store, hends, hlast, Nat.not_le.1 hlast]

/-- A further word of a packet finds a slot. -/
theorem Holds.push?_pending {first : UInt32} {rest : List UInt32}
    (h : slots.Holds ⟨(first :: rest).toArray⟩) (word : UInt32) :
    ∃ after, slots.push? word =
        some ((Assembler.push ⟨(first :: rest).toArray⟩ word).1, after) ∧
      after.Holds (Assembler.push ⟨(first :: rest).toArray⟩ word).2 := by
  have hopcode : slots.opcode = Word.command first := h.opcode
  have hexpected : slots.expected = length (Word.command first) := h.expected
  have hfill : slots.fill = rest.length + 1 := h.fill
  have hmore : rest.length + 1 < length (Word.command first) := h.incomplete (by simp)
  have hcapacity := length_lt_capacity (Word.command first)
  have hroom : slots.fill < capacity := by omega
  have hfront : slots.row.toList.take slots.fill = first :: rest := by
    rw [hfill]
    exact h.front
  have hsize : rest.length + 2 = slots.fill + 1 := by omega
  rw [Slots.push?, if_neg (by omega), dif_pos hroom, finish_store,
    Assembler.push_further_word (by omega), ← hexpected, ← hfill, ← hopcode, hsize, hfront]
  split
  · exact ⟨_, rfl, holds_idle _⟩
  · next hkept =>
      have hopen : ¬ slots.expected ≤ slots.fill + 1 ∧
          Assembler.endsPolyline slots.expected slots.fill word = false := by
        simpa using hkept
      refine ⟨_, rfl, ⟨hopcode, hexpected, ?_, ?_, ?_, ?_⟩⟩
      · simp [store, hopen]
        omega
      · simp [store, hfill]
      · simpa [store, hfront, hsize] using take_set slots.row word hroom
      · intro _
        simp [Assembler.expected]
        omega

/-- Every word finds a slot, and the slots do what the assembler does. -/
theorem Holds.push? {assembler : Assembler} (h : slots.Holds assembler) (word : UInt32) :
    ∃ after, slots.push? word = some ((assembler.push word).1, after) ∧
      after.Holds (assembler.push word).2 := by
  obtain ⟨⟨pending⟩⟩ := assembler
  cases pending with
  | nil => exact h.push?_idle word
  | cons first rest => exact h.push?_pending word

/-- So it goes on for any number of words. -/
theorem Holds.pushAll? {assembler : Assembler} (h : slots.Holds assembler) (words : List UInt32) :
    ∃ after, slots.pushAll? words = some ((assembler.pushAll words).1, after) ∧
      after.Holds (assembler.pushAll words).2 := by
  induction words generalizing slots assembler with
  | nil => exact ⟨slots, rfl, h⟩
  | cons word words ih =>
      obtain ⟨next, hpush, hnext⟩ := h.push? word
      obtain ⟨after, hrun, hafter⟩ := ih hnext
      rw [Slots.pushAll?, hpush, Assembler.pushAll]
      refine ⟨after, ?_, hafter⟩
      simp only [Option.bind_eq_bind, Option.bind_some, hrun]
      rfl

end Slots

/-! ## Streams -/

/-- An idle assembler, whatever its slots still hold, cuts a stream as the grammar does.  It hands
out the packets of the cut and keeps the words behind the last piece; pieces and kept words make up
the stream; a packet has the opcode of its first word; and no word lacks a slot. -/
theorem pushAll_eq_segment (row : Vector UInt32 capacity) (stream : List UInt32) :
    let items := (segment stream).1
    let pending := (segment stream).2
    let packets := (Assembler.pushAll {} stream).1
    let assembler := (Assembler.pushAll {} stream).2
    packets = items.filterMap Item.packet? ∧
      assembler.pending.toList = pending ∧
      items.flatMap Item.words ++ pending = stream ∧
      (∀ packet ∈ packets, packet.words.head?.map Word.command = some packet.opcode) ∧
      ∃ slots, (Slots.idle row).pushAll? stream = some (packets, slots) ∧
        slots.Holds assembler ∧ slots.received = pending.length := by
  intro items pending packets assembler
  have hcut : Assembler.pushAll {} stream = (items.filterMap Item.packet?, ⟨pending.toArray⟩) :=
    Assembler.pushAll_segment stream
  have hpending : assembler.pending.toList = pending := by
    rw [show assembler = ⟨pending.toArray⟩ from congrArg Prod.snd hcut]
  obtain ⟨slots, hslots, hholds⟩ := (Slots.holds_idle row).pushAll? stream
  refine ⟨congrArg Prod.fst hcut, hpending, flatMap_segment stream, ?_, slots, hslots, hholds, ?_⟩
  · intro packet hpacket
    obtain ⟨first, rest, rfl, _, _⟩ := Assembler.isComplete_of_mem hpacket
    rfl
  · rw [hholds.received, ← hpending]
    rfl

end GpuCore.Packet
