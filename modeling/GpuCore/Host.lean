import GpuCore.Gpu.Chain
import GpuCore.Gpu.Freezing

/-!
# Host entry points

Host emulators drive the processor through entry points that answer with integer codes.  A fault
shows as a code, or as a zero word where a word is asked for.

Main definitions:

- `Host`: a processor and whether its window is open.
- `Host.Code`: the result codes.
- The entry points, each with the answer first and the host after it.

Main results:

- `Host.init_eq`: the two outcomes of an initialization.
-/

namespace GpuCore

/-! ## Codes -/

namespace Host.Code

/-- The operation succeeded. -/
def success : Int := 0

/-- The operation failed. -/
def fatal : Int := -1

/-- There is not enough memory. -/
def noHardware : Int := -3

end Host.Code

/-- A processor and whether it is open for output. -/
structure Host where
  gpu : Gpu
  opened : Bool := false
deriving Inhabited

namespace Host

/-- The code of a result. -/
def codeOf {α : Type} : Except Fault α → Int
  | .ok _ => Code.success
  | .error _ => Code.fatal

/-! ## Life cycle -/

/-- The code of an initialization, where memory that is refused has one of its own. -/
def initCodeOf : Except Fault Unit → Int
  | .ok () => Code.success
  | .error (.allocation _) => Code.noHardware
  | .error _ => Code.fatal

/-- Allocate video memory and reset, unless the memory is refused. -/
def init (host : Host) (grants : Nat → Bool) : Int × Host :=
  let (result, gpu) := host.gpu.init grants
  (initCodeOf result, { host with gpu := gpu })

/-- Initialization succeeds, or answers that there is not enough memory and leaves everything as
it was.  It never answers that it failed. -/
theorem init_eq (host : Host) (grants : Nat → Bool) :
    host.init grants =
      if grants host.gpu.bytesNeeded then
        (Code.success, { host with gpu := host.gpu.powerOn })
      else
        (Code.noHardware, host) := by
  unfold init Gpu.init
  by_cases hgranted : grants host.gpu.bytesNeeded = true
  · rw [if_pos hgranted, if_pos hgranted]
    rfl
  · rw [if_neg hgranted, if_neg hgranted]
    rfl

/-- Close and give video memory back. -/
def shutdown (host : Host) : Int × Host :=
  (Code.success, { host with opened := false, gpu := host.gpu.powerOff })

/-- Open for output, which needs video memory, and take the time anew. -/
def openOutput (host : Host) : Int × Host :=
  if host.gpu.isInitialized then
    (Code.success,
     { host with opened := true, gpu := { host.gpu with pacer := host.gpu.pacer.reset } })
  else
    (Code.fatal, host)

/-- Close for output. -/
def closeOutput (host : Host) : Int × Host :=
  (Code.success, { host with opened := false })

/-! ## Channels -/

/-- Write a control word. -/
def writeStatus (host : Host) (word : UInt32) : Host :=
  { host with gpu := host.gpu.writeControl word }

/-- Read the status word. -/
def readStatus (host : Host) : UInt32 × Host :=
  let (word, gpu) := host.gpu.readStatus
  (word, { host with gpu := gpu })

/-- Write words to the data channel; a fault is dropped. -/
def writeData (host : Host) (words : List UInt32) : Host :=
  { host with gpu := (host.gpu.writeData words).2 }

/-- Read a word from the data channel; zero on a fault. -/
def readData (host : Host) : UInt32 × Host :=
  match host.gpu.readWord with
  | (.ok word, gpu) => (word, { host with gpu := gpu })
  | (.error _, gpu) => (0, { host with gpu := gpu })

/-- Fill slots from the data channel; the slots keep what they held where no word arrives. -/
def readDataInto (host : Host) (slots : List UInt32) : List UInt32 × Host :=
  let (_, slots, gpu) := host.gpu.readInto slots
  (slots, { host with gpu := gpu })

/-- Write a chain of blocks to the data channel. -/
def followChain (host : Host) (memory : Array UInt32) (address : UInt32) : Int × Host :=
  let (result, gpu) := host.gpu.followChain memory address
  (codeOf result, { host with gpu := gpu })

/-- The end of a period. -/
def endPeriod (host : Host) (pause : UInt64) : Host :=
  { host with gpu := host.gpu.endPeriod pause }

/-! ## Saved states -/

/-- A freeze operation on a buffer: one on success and zero on a fault, then the buffer. -/
def freeze (host : Host) (mode : UInt32) (buffer : Array UInt8) : Int × Array UInt8 × Host :=
  match FreezeMode.ofWord mode with
  | .error _ => (0, buffer, host)
  | .ok mode =>
    match host.gpu.freeze mode buffer with
    | (.ok _, buffer, gpu) => (1, buffer, { host with gpu := gpu })
    | (.error _, buffer, gpu) => (0, buffer, { host with gpu := gpu })

end Host

end GpuCore
