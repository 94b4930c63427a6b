import GpuCore.Proofs.Packet.Segmentation
import GpuCore.Proofs.Primitive.Line
import GpuCore.Proofs.Primitive.Polygon
import GpuCore.Proofs.Primitive.Sprite

/-!
# Packets and their decoders agree

The table of lengths, the search for terminators and the decoders describe the layout of drawing
commands three times over.  Here they meet: whatever words are written, the drawing packets that
come out of the assembler are those that their decoders take as they are.

Main results:

- `Packet.IsComplete.length_eq`: apart from polylines a complete packet has the length of the table.
- `Packet.IsComplete.readsPacket`: what lines are made of, with the number of points of those
  polylines that no terminator ended.
- `Packet.reads_of_mem_pushAll`: the packets of any stream are read as they are.
-/

namespace GpuCore

open Packet

namespace Packet.IsComplete

variable {packet : Packet}

/-- Apart from polylines a complete packet has the length of the table. -/
theorem length_eq (hcomplete : packet.IsComplete)
    (hflat : isFlatPolyline packet.opcode = false)
    (hshaded : isShadedPolyline packet.opcode = false) :
    packet.words.length = length packet.opcode := by
  obtain ⟨first, rest, rfl, _, hspan⟩ := hcomplete
  unfold span at hspan
  rw [hflat, hshaded, if_neg Bool.false_ne_true, if_neg Bool.false_ne_true] at hspan
  exact hspan.symm

/-- Packets of opcodes below and above those of lines are no polylines. -/
theorem length_eq_of_opcode (hcomplete : packet.IsComplete)
    (hkind : packet.opcode ≤ 0x3F ∨ 0x60 ≤ packet.opcode) :
    packet.words.length = length packet.opcode := by
  simp only [UInt8.le_iff_toNat_le, UInt8.reduceToNat] at hkind
  refine hcomplete.length_eq ?_ ?_
  · simp only [isFlatPolyline, UInt8.le_iff_toNat_le, UInt8.reduceToNat, Bool.and_eq_false_iff,
      decide_eq_false_iff_not]
    omega
  · simp only [isShadedPolyline, UInt8.le_iff_toNat_le, UInt8.reduceToNat, Bool.and_eq_false_iff,
      decide_eq_false_iff_not]
    omega

/-- A complete polygon packet is read as a whole. -/
theorem readsPolygon (hcomplete : packet.IsComplete)
    (hkind : 0x20 ≤ packet.opcode ∧ packet.opcode ≤ 0x3F) :
    ReadsWhole Polygon.decode? packet.words (Polygon.ofSlots packet.words) := by
  have hlength := hcomplete.length_eq_of_opcode (.inl hkind.2)
  obtain ⟨first, rest, rfl, _, _⟩ := hcomplete
  exact Polygon.readsWhole hkind hlength

/-- A complete sprite packet is read as a whole. -/
theorem readsSprite (hcomplete : packet.IsComplete)
    (hkind : 0x60 ≤ packet.opcode ∧ packet.opcode ≤ 0x7F) :
    ReadsWhole Sprite.decode? packet.words (Sprite.ofSlots packet.words) := by
  have hlength := hcomplete.length_eq_of_opcode (.inr hkind.1)
  obtain ⟨first, rest, rfl, _, _⟩ := hcomplete
  exact Sprite.readsWhole hkind hlength

/-- A complete line packet is read up to the word that ended it. -/
theorem readsLine (hcomplete : packet.IsComplete)
    (hkind : 0x40 ≤ packet.opcode ∧ packet.opcode ≤ 0x5F) : Line.ReadsPacket packet.words := by
  obtain ⟨first, rest, rfl, hlength, hspan⟩ := hcomplete
  exact Line.readsPacket hkind hlength hspan

/-- A complete polyline that no terminator ended is full. -/
theorem pointCount_of_not_isEnded (hcomplete : packet.IsComplete)
    (hkind : 0x40 ≤ packet.opcode ∧ packet.opcode ≤ 0x5F)
    (hends : Line.isEnded packet.words = false) :
    (isFlatPolyline packet.opcode = true → Line.pointCount packet.words = 253) ∧
      (isShadedPolyline packet.opcode = true → Line.pointCount packet.words = 127) := by
  obtain ⟨first, rest, rfl, _, hspan⟩ := hcomplete
  exact Line.pointCount_of_not_isEnded hkind hspan hends

end Packet.IsComplete

/-- Every drawing packet that comes out of a stream is one that its decoder takes as it is.
Polygons and sprites are made of all the words that the table counts, each taken from its slot.
Lines have at least two points and are made of the words before the one that ended the packet;
polylines that no terminator ended have all the points there is room for. -/
theorem Packet.reads_of_mem_pushAll {stream : List UInt32} {packet : Packet}
    (hmem : packet ∈ (Assembler.pushAll {} stream).1) :
    (0x20 ≤ packet.opcode ∧ packet.opcode ≤ 0x3F →
      packet.words.length = length packet.opcode ∧
        ReadsWhole Polygon.decode? packet.words (Polygon.ofSlots packet.words)) ∧
    (0x40 ≤ packet.opcode ∧ packet.opcode ≤ 0x5F →
      Line.ReadsPacket packet.words ∧
        (Line.isEnded packet.words = false →
          (isFlatPolyline packet.opcode = true →
            (Line.ofSlots packet.words).points.length = 253) ∧
          (isShadedPolyline packet.opcode = true →
            (Line.ofSlots packet.words).points.length = 127))) ∧
    (0x60 ≤ packet.opcode ∧ packet.opcode ≤ 0x7F →
      packet.words.length = length packet.opcode ∧
        ReadsWhole Sprite.decode? packet.words (Sprite.ofSlots packet.words)) := by
  have hcomplete := Assembler.isComplete_of_mem hmem
  refine ⟨fun hkind => ⟨?_, ?_⟩, fun hkind => ⟨?_, fun hends => ?_⟩, fun hkind => ⟨?_, ?_⟩⟩
  · exact hcomplete.length_eq_of_opcode (.inl hkind.2)
  · exact hcomplete.readsPolygon hkind
  · exact hcomplete.readsLine hkind
  · rw [Line.length_points_ofSlots]
    exact hcomplete.pointCount_of_not_isEnded hkind hends
  · exact hcomplete.length_eq_of_opcode (.inr hkind.1)
  · exact hcomplete.readsSprite hkind

/-- A shaded polyline between other words.  What looks like a terminator is a vertex in slots 1 and
3 and a color in slot 2; in slot 4 it ends the line, which therefore has two points. -/
theorem Packet.reads_of_mem_pushAll_polyline :
    ∃ packet ∈ (Assembler.pushAll {}
        [0x04000000, 0x58010203, 0x50005000, 0x50005000, 0x50005000, 0x50005000, 0x68000000]).1,
      packet.opcode = 0x58 ∧ Line.ReadsPacket packet.words ∧
        Line.isEnded packet.words = true ∧ (Line.ofSlots packet.words).points.length = 2 := by
  have hmem : (⟨0x58, [0x58010203, 0x50005000, 0x50005000, 0x50005000, 0x50005000]⟩ : Packet) ∈
      (Assembler.pushAll {}
        [0x04000000, 0x58010203, 0x50005000, 0x50005000, 0x50005000, 0x50005000,
          0x68000000]).1 := by
    decide +kernel
  have hline := (Packet.reads_of_mem_pushAll hmem).2.1 (by decide)
  exact ⟨_, hmem, rfl, hline.1, by decide +kernel, by decide +kernel⟩

end GpuCore
