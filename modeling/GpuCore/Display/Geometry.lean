import GpuCore.Environment

/-!
# Display geometry

What part of video memory is shown, and how.

Main definitions:

- `Region`: the two video standards.
- `DisplayRange`: the visible part of the video signal.
- `Geometry`: one generation of the display's geometry.
- `Frame`: what the renderer is told at the end of a period.
-/

namespace GpuCore

/-- The video standard of the output. -/
inductive Region where
  | ntsc
  | pal
deriving DecidableEq, Repr, Inhabited

/-- The visible range of the video signal. -/
structure DisplayRange where
  x0 : Nat := 0x260
  x1 : Nat := 0xC60
  y0 : Nat := 0x10
  y1 : Nat := 0x100
deriving DecidableEq, Repr, Inhabited

/-- One generation of display geometry. -/
structure Geometry where
  /-- Upper left corner of the displayed part of video memory. -/
  position : Point := {}
  /-- Lower right corner, excluded. -/
  corner : Point := {}
  rgb24 : Bool := false
  /-- Visible lines, before they are doubled. -/
  height : Int := 240
  disabled : Bool := true
  drawOffset : Point := {}
  drawArea : DrawArea := {}
  range : DisplayRange := {}
deriving DecidableEq, Repr, Inhabited

/-- A finished frame, as it is handed to the renderer. -/
structure Frame where
  position : Point
  size : Point
  rgb24 : Bool
  interlaced : Bool
  oddField : Bool
  region : Region
deriving DecidableEq, Repr, Inhabited

/-- Horizontal resolutions, by the bits 6, 1 and 0 of a display mode word. -/
def displayWidths : Vector Int 8 :=
  #v[256, 320, 512, 640, 368, 384, 512, 640]

end GpuCore
