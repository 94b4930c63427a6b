/-!
# Faults

The operations on the graphics processor that can fail do so for one of these causes, and leave
everything as it was.

Main definitions:

- `Fault` and its `message`.
-/

namespace GpuCore

/-- Why an operation was refused. -/
inductive Fault where
  /-- So many bytes of video memory are not to be had. -/
  | allocation (bytes : Nat)
  /-- There is no video memory. -/
  | notInitialized
  /-- A record of another version. -/
  | incompatibleRecord (expected got : UInt32)
  /-- An unknown freeze mode. -/
  | invalidFreezeMode (mode : UInt32)
  /-- A buffer or an image of the wrong size, in bytes. -/
  | bufferSize (expected got : Nat)
  /-- A save slot that does not exist. -/
  | invalidSaveSlot (slot : Int)
deriving DecidableEq, Repr, Inhabited

/-- The text shown for a fault. -/
def Fault.message : Fault → String
  | allocation bytes => "Failed to allocate " ++ bytes.repr ++ " bytes of video memory"
  | notInitialized => "Video memory is not initialized"
  | incompatibleRecord expected got =>
    "Incompatible save state version: expected " ++ expected.toNat.repr ++
      ", got " ++ got.toNat.repr
  | invalidFreezeMode mode => "Invalid freeze mode: " ++ mode.toNat.repr
  | bufferSize expected got =>
    "Freeze buffer too small: " ++ got.repr ++ " bytes (expected " ++ expected.repr ++ ")"
  | invalidSaveSlot slot =>
    "Invalid save slot: " ++ slot.repr ++ " (valid range: 0-8)"

end GpuCore
