/-!
# Loop detection for linked blocks

A chain of memory blocks may run in a circle.  The detector remembers three block addresses:
the last one, the last one that lay below its predecessor and the last one that did not.  An
address that equals one of the two brackets is reported as a loop.

Main definitions:

- `AddressHistory.visit`: record an address, or report a suspected loop.
-/

namespace GpuCore.Vram

/-- The addresses remembered by the loop detector. -/
structure AddressHistory where
  /-- The address visited last. -/
  last : UInt32 := 0xFFFFFF
  /-- The last address that lay below the one visited before it. -/
  lower : UInt32 := 0xFFFFFF
  /-- The last address that did not lie below the one visited before it. -/
  upper : UInt32 := 0xFFFFFF
deriving DecidableEq, Repr, Inhabited

/-- Record `address`; `none` when it equals one of the two brackets, which suggests a loop. -/
def AddressHistory.visit (history : AddressHistory) (address : UInt32) :
    Option AddressHistory :=
  if address = history.lower ∨ address = history.upper then
    none
  else if address < history.last then
    some { history with last := address, lower := address }
  else
    some { history with last := address, upper := address }

end GpuCore.Vram
