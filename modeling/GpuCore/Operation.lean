import GpuCore.Gpu.Chain
import GpuCore.Gpu.Freezing

/-!
# Operations and runs

Everything that happens to a processor from outside is an operation: accesses to its ports, the
end of a period, a chain of blocks, new settings, freezing and thawing, and what the user and the
passing of time do to the pacer.

Main definitions:

- `Operation` and `Operation.restores`: one operation, and whether it takes over a saved state.
- `Gpu.apply` and `Gpu.run`: the state after an operation and after a list of them.

Main results:

- `Gpu.init_eq_run`: initialization, refused or not, is a run.
-/

namespace GpuCore

/-! ## Operations -/

/-- What happens to the pacer between two periods. -/
inductive Pacing.Adjustment where
  /-- Time passes. -/
  | advance (ticks : UInt64)
  | fast (enabled : Bool)
  /-- Slow motion is flipped. -/
  | slow
  | pause (enabled : Bool)
  /-- Output was opened: the time is taken anew. -/
  | recapture
deriving DecidableEq, Repr, Inhabited

/-- The pacer after an adjustment. -/
def Pacing.Pacer.adjust (pacer : Pacer) : Adjustment → Pacer
  | .advance ticks => pacer.advance ticks
  | .fast enabled => pacer.setFast enabled
  | .slow => pacer.toggleSlow
  | .pause enabled => pacer.setPaused enabled
  | .recapture => pacer.reset

/-- One operation on the processor. -/
inductive Operation where
  | powerOn
  | powerOff
  | reset
  | configure (settings : Settings)
  /-- A chunk of words is written to the data channel. -/
  | writeData (words : List UInt32)
  | writeControl (word : UInt32)
  /-- Slots are filled from the data channel. -/
  | readInto (slots : List UInt32)
  | readWord
  | readStatus
  | endPeriod (pause : UInt64)
  | followChain (memory : Array UInt32) (address : UInt32)
  | freeze (mode : FreezeMode) (buffer : Array UInt8)
  | restore (record : Freeze.Record)
  | adjustPace (adjustment : Pacing.Adjustment)
deriving Inhabited

/-- Whether an operation takes over a saved state. -/
def Operation.restores : Operation → Bool
  | freeze .load _ | restore _ => true
  | _ => false

/-! ## Runs -/

namespace Gpu

/-- The state after an operation; what the operation answers is dropped. -/
def apply (gpu : Gpu) : Operation → Gpu
  | .powerOn => gpu.powerOn
  | .powerOff => gpu.powerOff
  | .reset => gpu.reset
  | .configure settings => gpu.configure settings
  | .writeData words => (gpu.writeData words).2
  | .writeControl word => gpu.writeControl word
  | .readInto slots => (gpu.readInto slots).2.2
  | .readWord => gpu.readWord.2
  | .readStatus => gpu.readStatus.2
  | .endPeriod pause => gpu.endPeriod pause
  | .followChain memory address => (gpu.followChain memory address).2
  | .freeze mode buffer => (gpu.freeze mode buffer).2.2
  | .restore record => (gpu.restore record).2
  | .adjustPace adjustment => { gpu with pacer := gpu.pacer.adjust adjustment }

/-- The state after a list of operations. -/
def run (gpu : Gpu) (operations : List Operation) : Gpu :=
  operations.foldl apply gpu

@[simp]
theorem run_nil (gpu : Gpu) : gpu.run [] = gpu :=
  rfl

@[simp]
theorem run_cons (gpu : Gpu) (operation : Operation) (operations : List Operation) :
    gpu.run (operation :: operations) = (gpu.apply operation).run operations :=
  rfl

/-- Initialization is a power-on, or no operation at all where the memory is refused: what holds
behind every run holds behind it too. -/
theorem init_eq_run (gpu : Gpu) (grants : Nat → Bool) :
    (gpu.init grants).2 = gpu.run (if grants gpu.bytesNeeded then [.powerOn] else []) := by
  unfold init
  split <;> rfl

end Gpu

end GpuCore
