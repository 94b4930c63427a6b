import GpuCore.Word

/-!
# Packet lengths

The opcode of a command decides how many words its packet has.  Polylines end with a terminator
word; their entries are the numbers of words at which they end without one.

Main definitions:

- `Packet.lengths`: the number of words for every opcode, zero for opcodes that start no packet.
- `Packet.length`: the entry of an opcode.
-/

namespace GpuCore.Packet

/-- Number of words at which a flat polyline ends without a terminator. -/
def flatPolyline : Nat := 254

/-- Number of words at which a shaded polyline ends without a terminator. -/
def shadedPolyline : Nat := 255

/-- Words that a packet may hold at most. -/
def capacity : Nat := 256

/-- First opcode, last opcode and number of words of every family of commands. -/
def families : List (Nat × Nat × Nat) :=
  [ -- fill
   (0x02, 0x02, 3),
   -- polygons
   (0x20, 0x23, 4), (0x24, 0x27, 7), (0x28, 0x2B, 5), (0x2C, 0x2F, 9),
   (0x30, 0x33, 6), (0x34, 0x37, 9), (0x38, 0x3B, 8), (0x3C, 0x3F, 12),
   -- lines
   (0x40, 0x43, 3), (0x48, 0x4F, flatPolyline), (0x50, 0x53, 4), (0x58, 0x5F, shadedPolyline),
   -- sprites
   (0x60, 0x63, 3), (0x64, 0x67, 4), (0x68, 0x6B, 2), (0x6C, 0x6F, 3),
   (0x70, 0x73, 2), (0x74, 0x77, 3), (0x78, 0x7B, 2), (0x7C, 0x7F, 3),
   -- transfers
   (0x80, 0x80, 4), (0xA0, 0xA0, 3), (0xC0, 0xC0, 3),
   -- drawing environment
   (0xE1, 0xE6, 1)]

/-- Words per opcode; zero for opcodes that start no packet. -/
def lengths : Vector Nat 256 :=
  Vector.ofFn fun opcode =>
    ((families.find? fun (first, last, _) => first ≤ opcode.val && opcode.val ≤ last).map
      fun (_, _, words) => words).getD 0

/-- Words of the packet that starts with `opcode`. -/
def length (opcode : UInt8) : Nat :=
  lengths.get ⟨opcode.toNat, opcode.toNat_lt⟩

/-- The entry of an opcode is that of the family that holds it. -/
theorem length_eq (opcode : UInt8) :
    length opcode =
      ((families.find? fun (first, last, _) =>
          first ≤ opcode.toNat && opcode.toNat ≤ last).map fun (_, _, words) => words).getD 0 := by
  rw [length, lengths]
  exact Vector.getElem_ofFn opcode.toNat_lt

end GpuCore.Packet
