/-!
# The status register

Programs poll one status word to learn what the graphics processor is doing.  Its layout is
fixed bit by bit, because a saved state stores it verbatim.  Beside the word the register
counts down a short sequence of pretended busy answers that some programs expect after a
drawing command.

Main definitions:

- `Status.Mask`: the named bit groups of the status word.
- `Status`: the word and the remaining busy reads.
- `Status.assign` and `Status.replace`: the two ways in which commands change bit groups.
- `Status.stepBusy`: one poll of the pretended busy sequence.
-/

namespace GpuCore

/-! ## Bit groups -/

namespace Status.Mask

/-- Field of an interlaced picture that is being shown. -/
def oddLines : UInt32 := 0x80000000

/-- Direction selected for the data channel. -/
def direction : UInt32 := 0x60000000

/-- Ready to receive a command. -/
def readyForCommands : UInt32 := 0x10000000

/-- Ready to hand out pixels. -/
def readyForPixels : UInt32 := 0x08000000

/-- Not busy. -/
def idle : UInt32 := 0x04000000

/-- Interrupt requested. -/
def interrupt : UInt32 := 0x01000000

/-- The picture is switched off. -/
def displayDisabled : UInt32 := 0x00800000

/-- Interlaced output. -/
def interlaced : UInt32 := 0x00400000

/-- Displayed pixels have 24 bits. -/
def rgb24 : UInt32 := 0x00200000

/-- European video standard. -/
def pal : UInt32 := 0x00100000

/-- Twice the usual number of lines. -/
def doubleHeight : UInt32 := 0x00080000

/-- Horizontal resolution. -/
def widthBits : UInt32 := 0x00070000

/-- Masked pixels are not drawn over. -/
def maskEnabled : UInt32 := 0x00001000

/-- Drawn pixels become masked. -/
def maskDrawn : UInt32 := 0x00000800

/-- Drawing into the displayed area is allowed. -/
def drawingAllowed : UInt32 := 0x00000400

/-- Dithering is on. -/
def dither : UInt32 := 0x00000200

/-- Texture page of the drawing mode. -/
def texturePage : UInt32 := 0x000001FF

/-- The two bits that a waiting program polls. -/
def available : UInt32 := idle ||| readyForCommands

/-- All named groups with their register names, from the highest bit down. -/
def named : List (String × UInt32) :=
  [("ODD_LINES", oddLines), ("DMA_BITS", direction), ("READY_FOR_COMMANDS", readyForCommands),
   ("READY_FOR_VRAM", readyForPixels), ("IDLE", idle), ("IRQ", interrupt),
   ("DISPLAY_DISABLED", displayDisabled), ("INTERLACED", interlaced), ("RGB24", rgb24),
   ("PAL", pal), ("DOUBLE_HEIGHT", doubleHeight), ("WIDTH_BITS", widthBits),
   ("MASK_ENABLED", maskEnabled), ("MASK_DRAWN", maskDrawn),
   ("DRAWING_ALLOWED", drawingAllowed), ("DITHER", dither), ("TEXTURE_PAGE", texturePage)]

/-- Every bit that belongs to a named group. -/
def all : UInt32 :=
  named.foldl (fun bits group => bits ||| group.2) 0

end Status.Mask

/-! ## The register -/

/-- The status word at power-on: idle, ready for commands, picture off. -/
def Status.powerOnWord : UInt32 := 0x14802000

/-- The status word together with the reads left of a pretended busy sequence. -/
structure Status where
  word : UInt32 := Status.powerOnWord
  busyReads : Nat := 0
deriving DecidableEq, Repr, Inhabited

namespace Status

/-- Overwrite the whole word. -/
def setWord (status : Status) (word : UInt32) : Status :=
  { status with word := word }

/-- Set every bit of `mask`. -/
def set (status : Status) (mask : UInt32) : Status :=
  { status with word := status.word ||| mask }

/-- Clear every bit of `mask`. -/
def unset (status : Status) (mask : UInt32) : Status :=
  { status with word := status.word &&& ~~~mask }

/-- Flip every bit of `mask`. -/
def toggle (status : Status) (mask : UInt32) : Status :=
  { status with word := status.word ^^^ mask }

/-- Set or clear `mask`, as `enabled` says. -/
def assign (status : Status) (mask : UInt32) (enabled : Bool) : Status :=
  if enabled then status.set mask else status.unset mask

/-- Take the bits of `mask` from `value` and keep all others. -/
def replace (status : Status) (mask value : UInt32) : Status :=
  { status with word := (status.word &&& ~~~mask) ||| (value &&& mask) }

/-- The bits of the word that lie in `mask`. -/
def bits (status : Status) (mask : UInt32) : UInt32 :=
  status.word &&& mask

/-- Whether any bit of `mask` is set. -/
def any (status : Status) (mask : UInt32) : Bool :=
  status.bits mask != 0

/-! ## Pretended busy answers -/

/-- Pretend to be busy over the next `reads` status reads. -/
def armBusy (status : Status) (reads : Nat) : Status :=
  { status with busyReads := reads }

/-- One status read of the sequence: the register looks busy while an odd number of reads
remains and available while an even number remains. -/
def stepBusy (status : Status) : Status :=
  match status.busyReads with
  | 0 => status
  | left + 1 =>
    let stepped := { status with busyReads := left }
    if left % 2 = 1 then stepped.unset Mask.available else stepped.set Mask.available

end Status

end GpuCore
