import GpuCore.Packet.Length
import GpuCore.Primitive.Line

/-!
# Assembling packets

Command words arrive one by one.  The assembler keeps the words of the packet in progress and
hands out the packet with its last word.  A word that starts no packet is discarded.

Main definitions:

- `Packet`: a complete command.
- `Assembler.push`: feed one word.
- `Assembler.pushAll`: feed a list of words and collect the packets.
-/

namespace GpuCore

/-- A complete command with all its words, the command word first. -/
structure Packet where
  opcode : UInt8
  words : List UInt32
deriving DecidableEq, Repr, Inhabited

/-- The words of the packet in progress; none while idle. -/
structure Assembler where
  pending : Array UInt32 := #[]
deriving DecidableEq, Repr, Inhabited

namespace Assembler

/-- No packet is in progress. -/
def isIdle (assembler : Assembler) : Bool :=
  assembler.pending.isEmpty

/-- Opcode of the packet in progress, zero while idle. -/
def opcode (assembler : Assembler) : UInt8 :=
  (assembler.pending[0]?.map Word.command).getD 0

/-- Words that the packet in progress has at most, zero while idle. -/
def expected (assembler : Assembler) : Nat :=
  (assembler.pending[0]?.map fun word => Packet.length (Word.command word)).getD 0

/-- Whether `word` ends a polyline of the given length entry as its word number `index`: flat
polylines look at vertices, shaded ones at colors, and both only behind two points. -/
def endsPolyline (length index : Nat) (word : UInt32) : Bool :=
  ((length == Packet.flatPolyline && 3 ≤ index) ||
    (length == Packet.shadedPolyline && 4 ≤ index && index % 2 == 0)) && isTerminator word

/-- Feed one word; the packet it completes, if any, and the assembler that is left. -/
def push (assembler : Assembler) (word : UInt32) : Option Packet × Assembler :=
  let index := assembler.pending.size
  let opcode := if index = 0 then Word.command word else assembler.opcode
  let length := Packet.length opcode
  if length = 0 then
    (none, assembler)
  else if length ≤ index + 1 || endsPolyline length index word then
    (some ⟨opcode, (assembler.pending.push word).toList⟩, {})
  else
    (none, ⟨assembler.pending.push word⟩)

/-- Feed words in order; the completed packets and the assembler that is left. -/
def pushAll (assembler : Assembler) : List UInt32 → List Packet × Assembler
  | [] => ([], assembler)
  | word :: words =>
    let (packet, assembler) := assembler.push word
    let (packets, assembler) := assembler.pushAll words
    (packet.toList ++ packets, assembler)

end Assembler

end GpuCore
