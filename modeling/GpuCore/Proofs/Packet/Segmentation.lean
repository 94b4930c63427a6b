import GpuCore.Proofs.DataChannel.Packet
import GpuCore.Proofs.Packet.Grammar

/-!
# The assembler cuts streams as the grammar does

The assembler decides with every word whether the packet in progress is complete.  What it hands
out is what looking ahead finds, and what it keeps are the words of the packet that the stream
leaves incomplete.

Main definitions:

- `Packet.IsComplete`: a packet that ends where the grammar says.

Main results:

- `Assembler.push_open`: the step, one more word of a packet in progress.
- `Assembler.pushAll_open`: a run of the assembler from a packet in progress.
- `Assembler.pushAll_segment`: packets and pending words of a whole stream.
- `Assembler.isComplete_of_mem`: packets that are handed out are complete.
-/

namespace GpuCore

open Packet

variable {first : UInt32} {rest : List UInt32}

/-- A packet that ends where the grammar says and not before, under the opcode of its first
word. -/
def Packet.IsComplete (packet : Packet) : Prop :=
  ∃ first rest, packet = ⟨Word.command first, first :: rest⟩ ∧
    length (Word.command first) ≠ 0 ∧ span first rest = rest.length + 1

namespace Assembler

/-! ## One word -/

/-- A word that starts no packet is discarded. -/
theorem push_discarded (hlength : length (Word.command first) = 0) :
    ({} : Assembler).push first = (none, {}) := by
  simp [push, hlength]

/-- Only a packet of one word is complete with its first word. -/
theorem span_nil_le_iff (first : UInt32) :
    span first [] ≤ 1 ↔ length (Word.command first) ≤ 1 := by
  have hflat := isFlatPolyline_iff (Word.command first)
  have hshaded := isShadedPolyline_iff (Word.command first)
  unfold span
  split
  · next hkind => simp [wordsUntil, firstEnd, endsFlat, hflat.1 hkind, flatPolyline]
  · split
    · next hkind => simp [wordsUntil, firstEnd, endsShaded, hshaded.1 hkind, shadedPolyline]
    · rfl

/-- The first word of a packet completes it, or is kept. -/
theorem push_first_word (hlength : length (Word.command first) ≠ 0) :
    ({} : Assembler).push first =
      if span first [] ≤ 1 then
        (some ⟨Word.command first, [first]⟩, {})
      else
        (none, ⟨#[first]⟩) := by
  have hearly : endsPolyline (length (Word.command first)) 0 first = false := by
    simp [endsPolyline]
  simp [push, hlength, hearly, span_nil_le_iff]

/-- One more word of a packet in progress completes it, at its length or as the end of a polyline,
or is kept. -/
theorem push_further_word (hlength : length (Word.command first) ≠ 0) (rest : List UInt32)
    (word : UInt32) :
    push ⟨(first :: rest).toArray⟩ word =
      if length (Word.command first) ≤ rest.length + 2 ∨
          endsPolyline (length (Word.command first)) (rest.length + 1) word = true then
        (some ⟨Word.command first, first :: (rest ++ [word])⟩, {})
      else
        (none, ⟨(first :: (rest ++ [word])).toArray⟩) := by
  simp [push, opcode, hlength]

/-- One more word of a packet in progress completes it where the grammar says, or is kept. -/
theorem push_open (hlength : length (Word.command first) ≠ 0)
    (hopen : rest.length + 1 < span first rest) (word : UInt32) :
    push ⟨(first :: rest).toArray⟩ word =
      if span first (rest ++ [word]) ≤ rest.length + 2 then
        (some ⟨Word.command first, first :: (rest ++ [word])⟩, {})
      else
        (none, ⟨(first :: (rest ++ [word])).toArray⟩) := by
  simp only [span_concat_le_iff hopen word]
  exact push_further_word hlength rest word

/-! ## A run -/

/-- The packet in progress is handed out where the grammar says, and the words behind it are fed to
an idle assembler; or it takes all words and is still in progress. -/
theorem pushAll_open (hlength : length (Word.command first) ≠ 0) (words : List UInt32)
    (hopen : rest.length + 1 < span first rest) :
    pushAll ⟨(first :: rest).toArray⟩ words =
      if span first (rest ++ words) ≤ (rest ++ words).length + 1 then
        let left := (rest ++ words).drop (span first (rest ++ words) - 1)
        (⟨Word.command first, first :: (rest ++ words).take (span first (rest ++ words) - 1)⟩ ::
          (pushAll {} left).1, (pushAll {} left).2)
      else
        ([], ⟨(first :: (rest ++ words)).toArray⟩) := by
  induction words generalizing rest with
  | nil => simp [pushAll, Nat.not_le.2 hopen]
  | cons word words ih =>
      have hstream : rest ++ word :: words = (rest ++ [word]) ++ words := by simp
      have hsize : (rest ++ [word]).length = rest.length + 1 := by simp
      rw [pushAll, push_open hlength hopen word, hstream]
      by_cases hcomplete : span first (rest ++ [word]) ≤ rest.length + 2
      · have hends := span_concat_eq hopen hcomplete
        have hspan : span first (rest ++ [word] ++ words) = rest.length + 2 := by
          rw [span_append_of_le (by omega), hends]
        have hcut : span first (rest ++ [word] ++ words) - 1 = (rest ++ [word]).length := by omega
        rw [if_pos hcomplete, if_pos (by rw [hspan, List.length_append]; omega)]
        simp only [hcut, List.take_left, List.drop_left]
        rfl
      · have hkept := @ih (rest ++ [word]) (by omega)
        rw [if_neg hcomplete]
        simp only [hkept]
        rfl

/-- The packet at the head of a stream is handed out, or kept as far as the stream goes. -/
theorem pushAll_packet (hlength : length (Word.command first) ≠ 0) (rest : List UInt32) :
    pushAll {} (first :: rest) =
      if span first rest ≤ rest.length + 1 then
        let left := rest.drop (span first rest - 1)
        (⟨Word.command first, first :: rest.take (span first rest - 1)⟩ :: (pushAll {} left).1,
          (pushAll {} left).2)
      else
        ([], ⟨(first :: rest).toArray⟩) := by
  rw [pushAll, push_first_word hlength]
  by_cases hsingle : span first [] ≤ 1
  · have hspan : span first rest = 1 := by
      have hsame : span first ([] ++ rest) = span first [] := span_append_of_le hsingle rest
      have hpos := span_pos hlength []
      rw [List.nil_append] at hsame
      omega
    rw [if_pos hsingle, hspan, if_pos (by omega)]
    rfl
  · rw [if_neg hsingle]
    have hkept := @pushAll_open first [] hlength rest (by simpa using hsingle)
    simp only [List.nil_append] at hkept
    simp only [hkept]
    rfl

/-- The packets of a stream are those of its cut, and the words that are kept are the words that
the cut leaves over. -/
theorem pushAll_segment (stream : List UInt32) :
    pushAll {} stream =
      ((Packet.segment stream).1.filterMap Item.packet?, ⟨(Packet.segment stream).2.toArray⟩) := by
  induction stream using Packet.segment.induct with
  | case1 =>
      rw [Packet.segment]
      rfl
  | case2 first rest hdiscarded items pending hcut ih =>
      rw [hcut] at ih
      rw [Packet.segment, if_pos hdiscarded, hcut, pushAll, push_discarded hdiscarded]
      simp only [ih]
      rfl
  | case3 first rest hlength hcomplete items pending hcut ih =>
      rw [hcut] at ih
      rw [Packet.segment, if_neg hlength, if_pos hcomplete, hcut, pushAll_packet hlength,
        if_pos hcomplete]
      simp only [ih]
      rfl
  | case4 first rest hlength hopen =>
      rw [Packet.segment, if_neg hlength, if_neg hopen, pushAll_packet hlength, if_neg hopen]
      rfl

/-- What is handed out is a piece of the cut, under the opcode of its first word. -/
theorem isComplete_of_mem {stream : List UInt32} {packet : Packet}
    (hmem : packet ∈ (pushAll {} stream).1) : packet.IsComplete := by
  rw [pushAll_segment] at hmem
  obtain ⟨item, hitem, hpacket⟩ := List.mem_filterMap.1 hmem
  cases item with
  | discarded word => simp [Item.packet?] at hpacket
  | packet first rest =>
      obtain ⟨hlength, hspan⟩ := span_of_mem_segment hitem
      exact ⟨first, rest, (Option.some.inj hpacket).symm, hlength, hspan⟩

end Assembler

end GpuCore
