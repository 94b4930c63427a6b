import GpuCore.Gpu

/-!
# Executing packets

Complete packets are decoded and passed on to the renderer.  Fills, moves and image transfers
work on video memory; environment commands also show in the status register, in the latches and
in the display.

Main definitions:

- `Family`: the families of commands, by opcode.
- `Gpu.execute`: the effect of one packet.
-/

namespace GpuCore

/-! ## Families of commands -/

/-- What a packet asks for. -/
inductive Family where
  | fill
  | polygon
  | line
  | sprite
  | move
  | upload
  | download
  /-- Drawing environment command `0xE0 + index`. -/
  | environment (index : Nat)
  | unknown
deriving DecidableEq, Repr, Inhabited

namespace Family

/-- The family of an opcode. -/
def ofOpcode (opcode : UInt8) : Family :=
  if opcode = 0x02 then fill
  else if 0x20 ≤ opcode ∧ opcode ≤ 0x3F then polygon
  else if 0x40 ≤ opcode ∧ opcode ≤ 0x5F then line
  else if 0x60 ≤ opcode ∧ opcode ≤ 0x7F then sprite
  else if opcode = 0x80 then move
  else if opcode = 0xA0 then upload
  else if opcode = 0xC0 then download
  else if 0xE1 ≤ opcode ∧ opcode ≤ 0xE6 then environment (opcode.toNat - 0xE0)
  else unknown

/-- Commands that draw and thereby keep the processor busy. -/
def draws : Family → Bool
  | fill | polygon | line | sprite => true
  | _ => false

end Family

namespace Gpu

/-! ## Video memory commands -/

/-- Fill an area with the color of the command word. -/
def fill (gpu : Gpu) (command position size : UInt32) : Gpu :=
  let area := Vram.Area.ofFillWords gpu.vram position size
  let pixel := (Color.ofWord command).rgb15
  emit { gpu with vram := gpu.vram.fillArea area pixel } (.fill area pixel)

/-- Copy an area within video memory.  A copy onto itself is not even reported. -/
def moveImage (gpu : Gpu) (source destination size : UInt32) : Gpu :=
  let area := Vram.Area.ofTransferWords gpu.vram source size
  let (x, y) := Vram.corner gpu.vram destination
  if area.x = x ∧ area.y = y then
    gpu
  else
    emit { gpu with vram := gpu.vram.moveArea area x y } (.copy area x y)

/-- Begin to receive an image. -/
def beginUpload (gpu : Gpu) (position size : UInt32) : Gpu :=
  { gpu with upload := .start gpu.vram (.ofTransferWords gpu.vram position size) }

/-- Begin to hand out an image, which the status register shows. -/
def beginDownload (gpu : Gpu) (position size : UInt32) : Gpu :=
  { gpu with
    download := .start gpu.vram (.ofTransferWords gpu.vram position size)
    status := gpu.status.set Status.Mask.readyForPixels }

/-! ## Drawing environment -/

/-- Set the drawing mode, whose lower eleven bits show in the status register. -/
def setDrawMode (gpu : Gpu) (word : UInt32) : Gpu :=
  let shown := Status.Mask.texturePage ||| Status.Mask.dither ||| Status.Mask.drawingAllowed
  emit { gpu with status := gpu.status.replace shown word, drawMode := .ofWord word }
    (.environment (.drawMode (.ofWord word)))

/-- Set the texture window. -/
def setTextureWindow (gpu : Gpu) (word : UInt32) : Gpu :=
  emit { gpu with latches := { gpu.latches with textureWindow := word &&& 0xFFFFF } }
    (.environment (.textureWindow (.ofWord word)))

/-- The corner of the clipping rectangle held by an environment word. -/
def areaCorner (gpu : Gpu) (word : UInt32) : Nat × Nat :=
  (Word.field word 0 10, Word.field word 10 10 % gpu.vram.lines)

/-- Set the upper left corner of the clipping rectangle. -/
def setAreaTopLeft (gpu : Gpu) (word : UInt32) : Gpu :=
  let (x, y) := gpu.areaCorner word
  emit
    { gpu with
      latches := { gpu.latches with areaTopLeft := word &&& 0x3FFFFF }
      display := gpu.display.setAreaTopLeft x y }
    (.environment (.areaTopLeft x y))

/-- Set the lower right corner of the clipping rectangle. -/
def setAreaBottomRight (gpu : Gpu) (word : UInt32) : Gpu :=
  let (x, y) := gpu.areaCorner word
  emit
    { gpu with
      latches := { gpu.latches with areaBottomRight := word &&& 0x3FFFFF }
      display := gpu.display.setAreaBottomRight x y }
    (.environment (.areaBottomRight x y))

/-- Set the offset that is added to vertices: two signed fields of eleven bits. -/
def setDrawOffset (gpu : Gpu) (word : UInt32) : Gpu :=
  let offset : Point := ⟨Word.signedField word 0 11, Word.signedField word 11 11⟩
  emit
    { gpu with
      latches := { gpu.latches with drawOffset := word &&& 0x3FFFFF }
      display := gpu.display.setDrawOffset offset }
    (.environment (.drawOffset offset))

/-- Set the use of the mask bit. -/
def setMaskBits (gpu : Gpu) (word : UInt32) : Gpu :=
  let shown := Status.Mask.maskDrawn ||| Status.Mask.maskEnabled
  emit { gpu with status := gpu.status.replace shown ((word &&& 3) <<< 11) }
    (.environment (.maskBits (Word.flag word 0) (Word.flag word 1)))

/-- Execute drawing environment command `0xE0 + index`. -/
def setEnvironment (gpu : Gpu) (index : Nat) (word : UInt32) : Gpu :=
  match index with
  | 1 => gpu.setDrawMode word
  | 2 => gpu.setTextureWindow word
  | 3 => gpu.setAreaTopLeft word
  | 4 => gpu.setAreaBottomRight word
  | 5 => gpu.setDrawOffset word
  | 6 => gpu.setMaskBits word
  | _ => gpu

/-! ## Packets -/

/-- Pass a decoded primitive on, unless the period is skipped or words are missing. -/
def drawPrimitive (gpu : Gpu) (event? : Option Event) : Gpu :=
  if gpu.skipping then
    gpu
  else
    match event? with
    | some event => gpu.emit event
    | none => gpu

/-- What a packet of a family does, apart from keeping the processor busy. -/
def perform (gpu : Gpu) (family : Family) (words : List UInt32) : Gpu :=
  match family, words with
  | .fill, command :: position :: size :: _ => gpu.fill command position size
  | .polygon, words => gpu.drawPrimitive ((Polygon.decode? words).map .polygon)
  | .line, words => gpu.drawPrimitive ((Line.decode? words).map .line)
  | .sprite, words => gpu.drawPrimitive ((Sprite.decode? words).map .sprite)
  | .move, _ :: source :: destination :: size :: _ => gpu.moveImage source destination size
  | .upload, _ :: position :: size :: _ => gpu.beginUpload position size
  | .download, _ :: position :: size :: _ => gpu.beginDownload position size
  | .environment index, word :: _ => gpu.setEnvironment index word
  | _, _ => gpu

/-- Status reads that look busy and available in turn after a drawing command. -/
def busyReadsAfterDrawing : Nat := 4

/-- Execute a complete packet. -/
def execute (gpu : Gpu) (packet : Packet) : Gpu :=
  let family := Family.ofOpcode packet.opcode
  let gpu := gpu.perform family packet.words
  if family.draws && gpu.settings.fixes.contains .fakeBusy then
    { gpu with status := gpu.status.armBusy busyReadsAfterDrawing }
  else
    gpu

end Gpu

end GpuCore
