import GpuCore.Packet.Assembler

/-!
# Packet slots

The assembler needs no growing list: no packet has more words than there are slots, so one row of
slots serves for all packets, and a new packet overwrites what an earlier one left behind.  A
polyline that ends early leaves the slots behind its last word untouched.

Main definitions:

- `Packet.Slots`: the row of slots and the packet that it holds in part.
- `Packet.Slots.push?`: feed one word; `none` if there were no slot for it.
- `Packet.Slots.pushAll?`: feed a list of words and collect the packets.
-/

namespace GpuCore.Packet

/-- A row of slots with the words of the packet in progress at its front. -/
structure Slots where
  /-- Opcode of the packet in progress, zero while idle. -/
  opcode : UInt8 := 0
  /-- Words that the packet in progress has at most, zero while idle. -/
  expected : Nat := 0
  /-- Slot of the next word. -/
  fill : Nat := 0
  /-- Words of the packet in progress. -/
  received : Nat := 0
  row : Vector UInt32 capacity

namespace Slots

/-- No packet is in progress; the row holds what earlier packets left behind. -/
def idle (row : Vector UInt32 capacity) : Slots where
  row := row

/-- Drop the packet in progress.  The row is not cleared. -/
def reset (slots : Slots) : Slots :=
  idle slots.row

/-- Hand out the packet if its last slot is filled. -/
def finish (slots : Slots) : Option Packet × Slots :=
  if slots.fill < slots.expected then
    (none, slots)
  else
    (some ⟨slots.opcode, slots.row.toList.take slots.received⟩, slots.reset)

/-- The first word of a packet goes to the first slot. -/
def begin (slots : Slots) (word : UInt32) (expected : Nat) : Slots where
  opcode := Word.command word
  expected := expected
  fill := 1
  received := 1
  row := slots.row.set 0 word (by decide)

/-- A further word goes to the next slot.  The end of a polyline stands for all words that the
polyline could still have. -/
def store (slots : Slots) (word : UInt32) (hroom : slots.fill < capacity) : Slots :=
  { slots with
    fill :=
      if Assembler.endsPolyline slots.expected slots.fill word then
        slots.expected
      else
        slots.fill + 1
    received := slots.fill + 1
    row := slots.row.set slots.fill word hroom }

/-- Feed one word: the packet it completes, if any, and the slots that are left; `none` if there is
no slot for the word. -/
def push? (slots : Slots) (word : UInt32) : Option (Option Packet × Slots) :=
  if slots.expected = 0 then
    let expected := length (Word.command word)
    if expected = 0 then some (none, slots) else some (slots.begin word expected).finish
  else if hroom : slots.fill < capacity then
    some (slots.store word hroom).finish
  else
    none

/-- Feed words in order; the completed packets and the slots that are left. -/
def pushAll? (slots : Slots) : List UInt32 → Option (List Packet × Slots)
  | [] => some ([], slots)
  | word :: words => do
    let (packet, slots) ← slots.push? word
    let (packets, slots) ← slots.pushAll? words
    return (packet.toList ++ packets, slots)

end Slots

end GpuCore.Packet
