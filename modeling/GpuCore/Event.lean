import GpuCore.Display.Geometry
import GpuCore.Primitive.Line
import GpuCore.Primitive.Polygon
import GpuCore.Primitive.Sprite
import GpuCore.Vram.Area

/-!
# Renderer events

Everything that the renderer is told, in the order in which it happens.

Main definitions:

- `Event`: one message to the renderer.
- `Event.isFrame`, `Event.isPrimitive`, `Event.isUpload`: the classes that a summary counts.
-/

namespace GpuCore

/-- One message to the renderer. -/
inductive Event where
  | polygon (polygon : Polygon)
  | line (line : Line)
  | sprite (sprite : Sprite)
  /-- An area was filled with one pixel value. -/
  | fill (area : Vram.Area) (pixel : UInt16)
  /-- An area was copied to the corner (`x`, `y`). -/
  | copy (source : Vram.Area) (x y : Nat)
  | environment (setting : Environment)
  /-- An area was received completely. -/
  | upload (area : Vram.Area)
  /-- Position, range or size of the display changed. -/
  | displayMoved
  | frame (frame : Frame)
deriving DecidableEq, Repr, Inhabited

namespace Event

/-- A frame is presented. -/
def isFrame : Event → Bool
  | frame _ => true
  | _ => false

/-- A primitive is drawn. -/
def isPrimitive : Event → Bool
  | polygon _ | line _ | sprite _ => true
  | _ => false

/-- An image was received. -/
def isUpload : Event → Bool
  | upload _ => true
  | _ => false

end Event

end GpuCore
