import GpuCore.Display
import GpuCore.Event
import GpuCore.Fault
import GpuCore.Packet.Assembler
import GpuCore.Pacing.Pacer
import GpuCore.Vram.Transfer

/-!
# The graphics processor

One value holds the whole state: video memory, status register, display, the packet in
progress, both directions of the data channel, the control slots and the pacer.  What the renderer
was told is kept as a log of events.

Main definitions:

- `Gpu`: the state.
- `Gpu.create`, `Gpu.powerOn`, `Gpu.powerOff` and `Gpu.reset`.
- `Gpu.init`: power-on, unless the memory for it is refused.
- `Gpu.configure`: take over new settings.

Main results:

- `Gpu.powerOn_isInitialized`: there is video memory after power-on.
- `Gpu.bytesNeeded_eq`: initialization asks for what power-on takes.
-/

namespace GpuCore

/-! ## State -/

/-- Words latched from drawing environment commands, for queries. -/
structure Latches where
  textureWindow : UInt32 := 0
  areaTopLeft : UInt32 := 0
  areaBottomRight : UInt32 := 0
  drawOffset : UInt32 := 0
deriving DecidableEq, Repr, Inhabited

/-- Number of control slots, one per control opcode. -/
abbrev controlSlots : Nat := 256

/-- The state of the graphics processor. -/
structure Gpu where
  settings : Settings
  vram : Vram.Memory := .unallocated
  status : Status := {}
  display : Display := .initial
  assembler : Assembler := {}
  /-- Pixels on their way into video memory. -/
  upload : Vram.Transfer := {}
  /-- Pixels on their way out of video memory. -/
  download : Vram.Transfer := {}
  /-- The last control word of every opcode. -/
  control : Vector UInt32 controlSlots := Vector.replicate controlSlots 0
  latches : Latches := {}
  drawMode : DrawMode := {}
  /-- What the data channel answers while it carries no pixels. -/
  dataWord : UInt32 := 0
  pacer : Pacing.Pacer
  /-- The current period is not rendered. -/
  skipping : Bool := false
  /-- Status reads since the field bit was flipped. -/
  statusReads : Nat := 0
  /-- Save slot that the host shows. -/
  saveSlot : Int32 := 0
  /-- What the renderer was told. -/
  events : Array Event := #[]
deriving Inhabited

namespace Gpu

/-- A processor without video memory, paced by `pacer`. -/
def create (settings : Settings) (pacer : Pacing.Pacer) : Gpu where
  settings := settings
  pacer := pacer

/-- There is video memory. -/
def isInitialized (gpu : Gpu) : Bool :=
  gpu.vram.isAllocated

/-- Tell the renderer. -/
def emit (gpu : Gpu) (event : Event) : Gpu :=
  { gpu with events := gpu.events.push event }

/-- Forget what the renderer was told. -/
def clearEvents (gpu : Gpu) : Gpu :=
  { gpu with events := #[] }

/-! ## Settings and reset -/

/-- Pace at the rate of the display mode. -/
def updateRate (gpu : Gpu) : Gpu :=
  { gpu with
    pacer :=
      gpu.pacer.setMode gpu.settings.pacing.customRate gpu.display.region
        gpu.display.pendingInterlaced }

/-- Take over new settings.  The size of video memory changes when it is allocated next. -/
def configure (gpu : Gpu) (settings : Settings) : Gpu :=
  updateRate { gpu with settings := settings, pacer := gpu.pacer.configure settings.pacing }

/-- Back to the power-on status word and display; packets and transfers in progress are lost.
Video memory and control slots are kept. -/
def resetCommands (gpu : Gpu) : Gpu :=
  updateRate
    { gpu with
      latches := {}
      status := {}
      display := .initial
      assembler := {}
      upload := {}
      download := {}
      drawMode := {} }

/-- Reset everything but the pixels, the save slot and the log. -/
def reset (gpu : Gpu) : Gpu :=
  let gpu := gpu.resetCommands
  { gpu with
    control := Vector.replicate controlSlots 0
    dataWord := 0
    skipping := false
    statusReads := 0
    vram := gpu.vram.forgetHistory
    pacer := gpu.pacer.reset }

/-- Allocate video memory of the configured size and reset everything. -/
def powerOn (gpu : Gpu) : Gpu :=
  reset { gpu with vram := .allocate (.ofDoubled gpu.settings.doubledMemory) }

/-- Bytes that power-on allocates with the present settings. -/
def bytesNeeded (gpu : Gpu) : Nat :=
  (Vram.Height.ofDoubled gpu.settings.doubledMemory).bufferBytes

/-- Power on if `grants` says that the bytes for it can be had.  If not, refuse and change nothing:
video memory that is there already is kept. -/
def init (gpu : Gpu) (grants : Nat → Bool) : Except Fault Unit × Gpu :=
  if grants gpu.bytesNeeded then
    (.ok (), gpu.powerOn)
  else
    (.error (.allocation gpu.bytesNeeded), gpu)

/-- Give video memory back; everything else is kept. -/
def powerOff (gpu : Gpu) : Gpu :=
  { gpu with vram := gpu.vram.release }

/-- There is video memory after power-on. -/
@[simp]
theorem powerOn_isInitialized (gpu : Gpu) : gpu.powerOn.isInitialized = true :=
  Vram.Memory.allocate_isAllocated (.ofDoubled gpu.settings.doubledMemory)

/-- The bytes that initialization asks for are those that power-on takes. -/
theorem bytesNeeded_eq (gpu : Gpu) : gpu.bytesNeeded = 2 * gpu.powerOn.vram.cells.size :=
  (Vram.Memory.allocate_bytes (.ofDoubled gpu.settings.doubledMemory)).symm

/-! ## Refusals -/

/-- Run an operation that needs video memory; without it, refuse and change nothing. -/
def ifInitialized {α : Type} (gpu : Gpu) (run : Gpu → Except Fault α × Gpu) :
    Except Fault α × Gpu :=
  if gpu.isInitialized then run gpu else (.error .notInitialized, gpu)

end Gpu

end GpuCore
