import GpuCore.Primitive.Attribute

/-!
# The drawing environment

Opcodes `0xE1` to `0xE6` set how later primitives are drawn: texture page and blending, the
texture window, the clipping area, the offset added to vertices and the use of the mask bit.

Main definitions:

- `DrawMode` and `TextureWindow` with their `ofWord`.
- `DrawArea`: the clipping rectangle.
- `Environment`: one setting, as it is passed on to the renderer.
-/

namespace GpuCore

/-- Texture page, blending and dithering. -/
structure DrawMode where
  /-- Texture page across, in steps of 64 pixels. -/
  pageX : Nat := 0
  /-- First line of the texture page: 0 or 256. -/
  pageY : Nat := 0
  blending : Nat := 0
  /-- 0 for four, 1 for eight and 2 for fifteen bits to a texel. -/
  depth : Nat := 0
  dithering : Bool := false
  drawToDisplay : Bool := false
  textureDisabled : Bool := false
  flipX : Bool := false
  flipY : Bool := false
deriving DecidableEq, Repr, Inhabited

/-- The drawing mode in the lower 14 bits of a word. -/
def DrawMode.ofWord (word : UInt32) : DrawMode where
  pageX := Word.field word 0 4
  pageY := if Word.flag word 4 then 256 else 0
  blending := Word.field word 5 2
  depth := Word.field word 7 2
  dithering := Word.flag word 9
  drawToDisplay := Word.flag word 10
  textureDisabled := Word.flag word 11
  flipX := Word.flag word 12
  flipY := Word.flag word 13

/-- The texture window, in steps of eight pixels. -/
structure TextureWindow where
  maskX : Nat := 0
  maskY : Nat := 0
  offsetX : Nat := 0
  offsetY : Nat := 0
deriving DecidableEq, Repr, Inhabited

/-- The texture window in the lower 20 bits of a word. -/
def TextureWindow.ofWord (word : UInt32) : TextureWindow where
  maskX := Word.field word 0 5
  maskY := Word.field word 5 5
  offsetX := Word.field word 10 5
  offsetY := Word.field word 15 5

/-- The clipping rectangle, all edges included. -/
structure DrawArea where
  left : Nat := 0
  top : Nat := 0
  right : Nat := 1023
  bottom : Nat := 511
deriving DecidableEq, Repr, Inhabited

/-- One setting of the drawing environment. -/
inductive Environment where
  | drawMode (mode : DrawMode)
  | textureWindow (window : TextureWindow)
  | areaTopLeft (x y : Nat)
  | areaBottomRight (x y : Nat)
  | drawOffset (offset : Point)
  | maskBits (setMask checkMask : Bool)
deriving DecidableEq, Repr, Inhabited

end GpuCore
