import GpuCore.Calendar.Timestamp
import GpuCore.Gpu.Freezing
import GpuCore.Snapshot.Varint

/-!
# Snapshot files

A snapshot file is a freeze record with some data about it: the version of the file, when it was
taken, the save slot and the size of video memory.  The fields follow each other without
padding; numbers have variable length, and text and record are preceded by their lengths.

Main definitions:

- `Snapshot` with `Gpu.capture` and `Snapshot.apply`.
- `Snapshot.encode` and `Snapshot.decode?`: the bytes of a file.
- `Snapshot.load`: decode a file and check its version.
-/

namespace GpuCore

open GpuCore.Snapshot
open GpuCore.Calendar (Instant)

/-! ## Snapshots -/

/-- The contents of a snapshot file. -/
structure Snapshot where
  version : UInt32
  /-- When the snapshot was taken. -/
  taken : Instant
  slot : Int32
  doubledMemory : Bool
  /-- The bytes of a freeze record. -/
  record : Array UInt8
deriving DecidableEq, Inhabited

/-- The version that is written and accepted. -/
def Snapshot.currentVersion : UInt32 := 1

/-- Take a snapshot, which needs video memory. -/
def Gpu.capture (gpu : Gpu) (now : Instant) : Except Fault Snapshot := do
  let record ← gpu.snapshot
  return {
    version := Snapshot.currentVersion
    taken := now
    slot := gpu.saveSlot
    doubledMemory := gpu.vram.height = .doubled
    record := record.toBytes }

/-- Restore a snapshot. -/
def Snapshot.apply (snapshot : Snapshot) (gpu : Gpu) : Except Fault Unit × Gpu :=
  gpu.restoreBytes snapshot.record

/-! ## Files -/

/-- Why a snapshot file could not be loaded. -/
inductive SnapshotError where
  /-- The bytes are no snapshot file. -/
  | malformed
  /-- A snapshot file of another version. -/
  | incompatibleVersion (expected got : UInt32)
deriving DecidableEq, Repr, Inhabited

/-- The text shown for a file of another version. -/
def SnapshotError.message : SnapshotError → String
  | malformed => "Decode error"
  | incompatibleVersion expected got =>
    "Incompatible save state file version: expected " ++ expected.toNat.repr ++
      ", got " ++ got.toNat.repr

namespace Snapshot

/-- Bytes preceded by their number. -/
def encodeBytes (bytes : List UInt8) : List UInt8 :=
  Varint.encode bytes.length ++ bytes

/-- The bytes of a file. -/
def encode (snapshot : Snapshot) : List UInt8 :=
  Varint.encode snapshot.version.toNat ++
    (encodeBytes snapshot.taken.render.toUTF8.toList ++
      (Varint.encode (zigzag snapshot.slot.toInt) ++
        ((if snapshot.doubledMemory then 1 else 0) :: encodeBytes snapshot.record.toList)))

/-- A number of at most 32 bits. -/
def decodeWord? (bytes : List UInt8) : Option (UInt32 × List UInt8) :=
  (Varint.decode? 4 bytes).map fun (value, bytes) => (value.toUInt32, bytes)

/-- Bytes preceded by their number. -/
def decodeBytes? (bytes : List UInt8) : Option (List UInt8 × List UInt8) := do
  let (count, bytes) ← Varint.decode? 8 bytes
  takeBytes? count bytes

/-- The instant of a timestamp preceded by its length. -/
def decodeInstant? (bytes : List UInt8) : Option (Instant × List UInt8) := do
  let (text, bytes) ← decodeBytes? bytes
  let timestamp ← String.fromUTF8? ⟨text.toArray⟩
  return (← Instant.parse? timestamp, bytes)

/-- A truth value in one byte, which is 0 or 1. -/
def decodeBool? : List UInt8 → Option (Bool × List UInt8)
  | 0 :: bytes => some (false, bytes)
  | 1 :: bytes => some (true, bytes)
  | _ => none

/-- The snapshot at the front of a file, and the bytes behind it. -/
def decode? (bytes : List UInt8) : Option (Snapshot × List UInt8) := do
  let (version, bytes) ← decodeWord? bytes
  let (taken, bytes) ← decodeInstant? bytes
  let (place, bytes) ← decodeWord? bytes
  let (doubledMemory, bytes) ← decodeBool? bytes
  let (record, bytes) ← decodeBytes? bytes
  let slot := Int32.ofInt (unzigzag place.toNat)
  return ({ version, taken, slot, doubledMemory, record := record.toArray }, bytes)

/-- The snapshot of a file.  What follows it does not count, and its version is looked at only
when all of it was decoded. -/
def load (bytes : List UInt8) : Except SnapshotError Snapshot :=
  match decode? bytes with
  | none => .error .malformed
  | some (snapshot, _) =>
    if snapshot.version = currentVersion then
      .ok snapshot
    else
      .error (.incompatibleVersion currentVersion snapshot.version)

end Snapshot

end GpuCore
