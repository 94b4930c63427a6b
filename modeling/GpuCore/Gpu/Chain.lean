import GpuCore.Gpu.DataChannel

/-!
# Linked blocks in main memory

A chain is a list of blocks in main memory.  Every block starts with a header word, which holds
the number of data words that follow and the byte address of the next block.  The data of all
blocks is written to the data channel.  The walk ends at the terminator, at the end of memory, at a
suspected loop or after two million blocks.

Main definitions:

- `Chain.Header`: the two fields of a header.
- `Chain.block?`: the data of the block at an address.
- `Gpu.followChain`: write a whole chain to the data channel.
-/

namespace GpuCore

/-! ## Blocks -/

namespace Chain

/-- The next address that ends a chain. -/
def terminator : UInt32 := 0xFFFFFF

/-- Blocks after which a walk is given up. -/
def blockLimit : Nat := 2000000

/-- The address bits of two megabytes of main memory. -/
def addressMask : UInt32 := 0x1FFFFC

/-- The header of a block. -/
structure Header where
  /-- Number of data words. -/
  count : Nat
  /-- Byte address of the next block. -/
  next : UInt32
deriving DecidableEq, Repr, Inhabited

/-- The two fields of a header word. -/
def Header.ofWord (word : UInt32) : Header where
  count := Word.field word 24 8
  next := word &&& terminator

/-- The header and the data of the block at a byte address; `none` unless all of it lies in
memory. -/
def block? (memory : Array UInt32) (address : UInt32) : Option (Header × List UInt32) := do
  let index := address.toNat / 4
  let header := Header.ofWord (← memory[index]?)
  if index + 1 + header.count ≤ memory.size then
    return (header, (memory.extract (index + 1) (index + 1 + header.count)).toList)
  else
    none

end Chain

/-! ## Walking a chain -/

namespace Gpu

/-- Addresses are cut to main memory, except on boards with doubled video memory. -/
def chainAddress (gpu : Gpu) (address : UInt32) : UInt32 :=
  match gpu.vram.height with
  | .standard => address &&& Chain.addressMask
  | .doubled => address

/-- Write the data of one block, which may be empty, to the data channel. -/
def takeBlock (gpu : Gpu) (words : List UInt32) : Gpu :=
  if words.isEmpty then gpu else gpu.takeChunk words

/-- Walk at most `limit` blocks of the chain at `address`. -/
def walkChain (memory : Array UInt32) : Nat → UInt32 → Gpu → Gpu
  | 0, _, gpu => gpu
  | limit + 1, address, gpu =>
    let address := gpu.chainAddress address
    let (loops, vram) := gpu.vram.visit address
    let gpu := { gpu with vram := vram }
    if loops then
      gpu
    else
      match Chain.block? memory address with
      | none => gpu
      | some (header, words) =>
        let gpu := gpu.takeBlock words
        if header.next = Chain.terminator then gpu else walkChain memory limit header.next gpu

/-- Write the chain at a byte address of main memory to the data channel. -/
def followChain (gpu : Gpu) (memory : Array UInt32) (address : UInt32) :
    Except Fault Unit × Gpu :=
  gpu.ifInitialized fun gpu =>
    (.ok (), gpu.whileBusy Status.Mask.idle fun gpu =>
      walkChain memory Chain.blockLimit address { gpu with vram := gpu.vram.forgetHistory })

end Gpu

end GpuCore
