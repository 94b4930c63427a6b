import GpuCore.Word

/-!
# Attributes of primitives

Colors, vertices and texture coordinates as they are packed into command words.

Main definitions:

- `Color`, `Color.ofWord` and `Color.rgb15`.
- `Vertex` and `TexCoord` with their `ofWord`.
- `Point`: a signed position on the display.
-/

namespace GpuCore

/-- A color with eight bits to a channel. -/
structure Color where
  red : UInt8 := 0
  green : UInt8 := 0
  blue : UInt8 := 0
deriving DecidableEq, Repr, Inhabited

/-- The color in the lower 24 bits of a command word, red lowest. -/
def Color.ofWord (word : UInt32) : Color where
  red := word.toUInt8
  green := (word >>> 8).toUInt8
  blue := (word >>> 16).toUInt8

/-- The color as a pixel of video memory: the upper five bits of each channel, mask bit clear. -/
def Color.rgb15 (color : Color) : UInt16 :=
  let channel (value : UInt8) : UInt16 := (value >>> 3).toUInt16
  (channel color.blue <<< 10) ||| (channel color.green <<< 5) ||| channel color.red

/-- A vertex before the drawing offset is added. -/
structure Vertex where
  x : Int16 := 0
  y : Int16 := 0
deriving DecidableEq, Repr, Inhabited

/-- A vertex word holds `x` in its lower half and `y` in its upper half. -/
def Vertex.ofWord (word : UInt32) : Vertex where
  x := (Word.low word).toInt16
  y := (Word.high word).toInt16

/-- A texture coordinate. -/
structure TexCoord where
  u : UInt8 := 0
  v : UInt8 := 0
deriving DecidableEq, Repr, Inhabited

/-- A texture word holds `u` in its lowest byte and `v` in the next one. -/
def TexCoord.ofWord (word : UInt32) : TexCoord where
  u := word.toUInt8
  v := (word >>> 8).toUInt8

/-- A signed point: a display position, a size or a drawing offset. -/
structure Point where
  x : Int := 0
  y : Int := 0
deriving DecidableEq, Repr, Inhabited

end GpuCore
