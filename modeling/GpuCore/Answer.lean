import GpuCore.Operation

/-!
# Answers

What a program or a host gets back from an operation: a result code, data words, a status word or
a filled buffer.

Main definitions:

- `Answer` and `Gpu.answer?`: the answer to one operation.
- `Gpu.answers`: all answers along a list of operations.
-/

namespace GpuCore

/-- What an operation hands back. -/
inductive Answer where
  /-- Whether the operation was carried out. -/
  | outcome (result : Except Fault Unit)
  /-- The number of slots that were filled, and the slots. -/
  | slots (result : Except Fault Nat) (slots : List UInt32)
  /-- One data word. -/
  | data (result : Except Fault UInt32)
  | status (word : UInt32)
  /-- Whether a freeze operation was carried out, and the buffer that it leaves. -/
  | buffer (result : Except Fault Unit) (bytes : Array UInt8)
deriving Inhabited

namespace Gpu

/-- The answer to an operation; `none` for operations that hand nothing back. -/
def answer? (gpu : Gpu) : Operation → Option Answer
  | .writeData words => some (.outcome (gpu.writeData words).1)
  | .readInto slots => some (.slots (gpu.readInto slots).1 (gpu.readInto slots).2.1)
  | .readWord => some (.data gpu.readWord.1)
  | .readStatus => some (.status gpu.readStatus.1)
  | .followChain memory address => some (.outcome (gpu.followChain memory address).1)
  | .freeze mode buffer => some (.buffer (gpu.freeze mode buffer).1 (gpu.freeze mode buffer).2.1)
  | .restore record => some (.outcome (gpu.restore record).1)
  | .powerOn | .powerOff | .reset | .configure _ | .writeControl _ | .endPeriod _
  | .adjustPace _ => none

/-- All answers along a list of operations, in order. -/
def answers (gpu : Gpu) : List Operation → List Answer
  | [] => []
  | operation :: operations =>
    (gpu.answer? operation).toList ++ (gpu.apply operation).answers operations

end Gpu

end GpuCore
