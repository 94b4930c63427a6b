import GpuCore.Freeze.Record
import GpuCore.Gpu.Control
import GpuCore.Gpu.Vsync

/-!
# Freezing and thawing

A record stores status word, control slots and pixels.  Everything else is rebuilt when it is
restored: nine control slots are replayed in a fixed order, the display mode is applied, and
status word and slots are then set to what the record holds.

Main definitions:

- `Gpu.snapshot` and `Gpu.restore`.
- `FreezeMode` and `Gpu.freeze`: the host's three freeze operations on a buffer.
-/

namespace GpuCore

/-! ## Records -/

namespace Gpu

/-- Bytes of the record of this processor. -/
def freezeSize (gpu : Gpu) : Nat :=
  Freeze.recordSize gpu.vram.size

/-- The record of the current state. -/
def record (gpu : Gpu) : Freeze.Record where
  version := Freeze.version
  status := gpu.status.word
  control := gpu.control
  pixels := gpu.vram.pixels

/-- Take a record, which needs video memory. -/
def snapshot (gpu : Gpu) : Except Fault Freeze.Record :=
  if gpu.isInitialized then .ok gpu.record else .error .notInitialized

/-- The control slots that are replayed, in order. -/
def replayOrder : List (Fin controlSlots) :=
  [0, 1, 2, 3, 8, 6, 7, 5, 4]

/-- Whether a slot was ever written.  Slot 0 is replayed in any case. -/
def isReplayed (slot : Fin controlSlots) (word : UInt32) : Bool :=
  slot.val == 0 || (Word.command word).toNat == slot.val

/-- Replay one slot of a record. -/
def replaySlot (control : Vector UInt32 controlSlots) (gpu : Gpu) (slot : Fin controlSlots) :
    Gpu :=
  let word := control.get slot
  if isReplayed slot word then gpu.writeControl word else gpu

/-- Set status word and control slots to those of a record. -/
def setRegisters (gpu : Gpu) (record : Freeze.Record) : Gpu :=
  { gpu with status := gpu.status.setWord record.status, control := record.control }

/-- Rebuild the state of an acceptable record. -/
def thaw (gpu : Gpu) (record : Freeze.Record) : Gpu :=
  let gpu := gpu.setRegisters record
  let gpu := { gpu with vram := gpu.vram.load record.pixels }
  let gpu := replayOrder.foldl (replaySlot record.control) gpu
  gpu.applyMode.setRegisters record

/-- Restore a record of the right version and image size.  A record that is refused changes
nothing. -/
def restore (gpu : Gpu) (record : Freeze.Record) : Except Fault Unit × Gpu :=
  gpu.ifInitialized fun gpu =>
    if record.version ≠ Freeze.version then
      (.error (.incompatibleRecord Freeze.version record.version), gpu)
    else if record.pixels.size ≠ gpu.vram.size then
      (.error (.bufferSize gpu.freezeSize record.size), gpu)
    else
      (.ok (), gpu.thaw record)

/-- Restore the record at the front of a buffer. -/
def restoreBytes (gpu : Gpu) (bytes : Array UInt8) : Except Fault Unit × Gpu :=
  match Freeze.Record.ofBytes bytes gpu.vram.size with
  | .ok record => gpu.restore record
  | .error fault => (.error fault, gpu)

end Gpu

/-! ## The host's freeze operations -/

/-- What the host asks for. -/
inductive FreezeMode where
  /-- Restore the record in the buffer. -/
  | load
  /-- Write a record to the buffer. -/
  | save
  /-- The buffer holds the save slot that the host shows. -/
  | info
deriving DecidableEq, Repr, Inhabited

/-- The mode of a host's mode number. -/
def FreezeMode.ofWord (mode : UInt32) : Except Fault FreezeMode :=
  if mode = 0 then .ok .load
  else if mode = 1 then .ok .save
  else if mode = 2 then .ok .info
  else .error (.invalidFreezeMode mode)

namespace Gpu

/-- The highest save slot. -/
def maxSaveSlot : Int32 := 8

/-- Write a record to the front of a buffer. -/
def saveTo (gpu : Gpu) (buffer : Array UInt8) : Except Fault (Array UInt8) := do
  (← gpu.snapshot).writeTo buffer

/-- The save slot in the first four bytes of a buffer. -/
def slotIn (buffer : Array UInt8) : Except Fault Int32 :=
  if buffer.size < 4 then
    .error (.bufferSize 4 buffer.size)
  else
    let slot := (Freeze.wordIn buffer 0).toInt32
    if 0 ≤ slot ∧ slot ≤ maxSaveSlot then .ok slot else .error (.invalidSaveSlot slot.toInt)

/-- One freeze operation on a buffer; the buffer and the processor that it leaves. -/
def freeze (gpu : Gpu) (mode : FreezeMode) (buffer : Array UInt8) :
    Except Fault Unit × Array UInt8 × Gpu :=
  match mode with
  | .save =>
    match gpu.saveTo buffer with
    | .ok buffer => (.ok (), buffer, gpu)
    | .error fault => (.error fault, buffer, gpu)
  | .load =>
    let (result, gpu) := gpu.ifInitialized fun gpu => gpu.restoreBytes buffer
    (result, buffer, gpu)
  | .info =>
    match slotIn buffer with
    | .ok slot => (.ok (), buffer, { gpu with saveSlot := slot })
    | .error fault => (.error fault, buffer, gpu)

end Gpu

end GpuCore
