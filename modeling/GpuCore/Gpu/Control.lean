import GpuCore.Gpu

/-!
# Control words and status reads

Control words take effect at once.  The last word of every opcode is kept in a slot, from which
a saved state rebuilds what it does not store.

Main definitions:

- `Gpu.writeControl`: one control word.
- `Gpu.readStatus`: one status read.
-/

namespace GpuCore.Gpu

/-! ## Commands -/

/-- Drop the packet and the transfers in progress. -/
def dropTransfers (gpu : Gpu) : Gpu :=
  { gpu with
    assembler := {}
    upload := {}
    download := {}
    status := gpu.status.unset Status.Mask.readyForPixels }

/-- Select what the data channel carries.  Direction 2 selects the upload and 3 the download; the
jobs themselves are kept, so that a suspended one can go on later. -/
def selectDirection (gpu : Gpu) (direction : UInt32) : Gpu :=
  { gpu with
    upload := { gpu.upload with streaming := direction == 2 }
    download := { gpu.download with streaming := direction == 3 }
    status := gpu.status.replace Status.Mask.direction (direction <<< 29) }

/-- Switch the picture on or off. -/
def setDisplayEnabled (gpu : Gpu) (disabled : Bool) : Gpu :=
  let (display, status) := gpu.display.setEnabled disabled gpu.status
  { gpu with display := display, status := status }

/-- Tell the renderer that the displayed area changed, if it did. -/
def emitMoved (gpu : Gpu) (moved : Bool) : Gpu :=
  if moved then gpu.emit .displayMoved else gpu

/-- Set the start of the displayed area. -/
def setDisplayPosition (gpu : Gpu) (word : UInt32) : Gpu :=
  let (moved, display) :=
    gpu.display.setPosition (Word.field word 0 10) (Word.field word 10 10)
      (gpu.settings.fixes.contains .swapFrontBack)
  emitMoved { gpu with display := display } moved

/-- Set the visible columns. -/
def setDisplayColumns (gpu : Gpu) (word : UInt32) : Gpu :=
  emitMoved
    { gpu with display := gpu.display.setColumns (Word.field word 0 12) (Word.field word 12 12) }
    true

/-- Set the visible lines. -/
def setDisplayLines (gpu : Gpu) (word : UInt32) : Gpu :=
  let (changed, display) :=
    gpu.display.setLines (Word.field word 0 10) (Word.field word 10 10)
  emitMoved { gpu with display := display } changed

/-- Decode a display mode, and pace at its rate if that changed. -/
def setDisplayMode (gpu : Gpu) (word : UInt32) : Gpu :=
  let (rateChanged, display, status) := gpu.display.setMode word gpu.status
  let gpu := { gpu with display := display, status := status }
  if rateChanged then gpu.updateRate else gpu

/-- The version reported by a query. -/
def version : UInt32 := 2

/-- A fixed word reported by a query. -/
def legacyWord : UInt32 := 0xBFC03720

/-- What a query with the given index answers, if it answers at all. -/
def queryAnswer? (gpu : Gpu) (index : Nat) : Option UInt32 :=
  match index with
  | 2 => some gpu.latches.textureWindow
  | 3 => some gpu.latches.areaTopLeft
  | 4 => some gpu.latches.areaBottomRight
  | 5 | 6 => some gpu.latches.drawOffset
  | 7 => some version
  | 8 | 15 => some legacyWord
  | _ => none

/-- Latch the answer to a query for the data channel. -/
def answerQuery (gpu : Gpu) (word : UInt32) : Gpu :=
  { gpu with dataWord := (gpu.queryAnswer? (Word.field word 0 4)).getD gpu.dataWord }

/-! ## Control words -/

/-- The effect of a control word, apart from being kept in its slot. -/
def obey (gpu : Gpu) (word : UInt32) : Gpu :=
  match Word.field word 24 8 with
  | 0x00 => gpu.resetCommands
  | 0x01 => gpu.dropTransfers
  | 0x02 => { gpu with status := gpu.status.unset Status.Mask.interrupt }
  | 0x03 => gpu.setDisplayEnabled (Word.flag word 0)
  | 0x04 => gpu.selectDirection (word &&& 3)
  | 0x05 => gpu.setDisplayPosition word
  | 0x06 => gpu.setDisplayColumns word
  | 0x07 => gpu.setDisplayLines word
  | 0x08 => gpu.setDisplayMode word
  | command => if command / 16 = 1 then gpu.answerQuery word else gpu

/-- Keep a control word in the slot of its opcode. -/
def keepControl (gpu : Gpu) (word : UInt32) : Gpu :=
  { gpu with
    control := gpu.control.set (Word.command word).toNat word (Word.command word).toNat_lt }

/-- Write a control word.  Words with an unknown opcode are only kept. -/
def writeControl (gpu : Gpu) (word : UInt32) : Gpu :=
  (gpu.keepControl word).obey word

/-! ## Status reads -/

/-- Status reads after which the field bit is flipped by the fix of that name. -/
def oddEvenReads : Nat := 3

/-- Count a status read and flip the field bit when its turn has come. -/
def countStatusRead (gpu : Gpu) : Gpu :=
  if gpu.settings.fixes.contains .oddEvenToggle then
    if gpu.statusReads + 1 < oddEvenReads then
      { gpu with statusReads := gpu.statusReads + 1 }
    else
      { gpu with statusReads := 0, status := gpu.status.toggle Status.Mask.oddLines }
  else
    gpu

/-- Read the status word, which goes one step on in a pretended busy sequence. -/
def readStatus (gpu : Gpu) : UInt32 × Gpu :=
  let gpu := gpu.countStatusRead
  let gpu := { gpu with status := gpu.status.stepBusy }
  (gpu.status.word, gpu)

end GpuCore.Gpu
