import GpuCore.Display.Geometry
import GpuCore.Status

/-!
# The display

The display keeps two generations of geometry, the current one and the one before it, so that a
change of position can be told from a repetition.  A display mode is decoded at once but stays
pending; the end of the current period commits it as a whole.

Main definitions:

- `Display`: both generations, the committed size and the pending mode.
- `Display.setPosition`, `setColumns`, `setLines`, `setMode`, `setEnabled`: the display
  commands.
- `Display.commit`: apply the pending mode.
- `Display.frame`: the frame that is presented.
-/

namespace GpuCore

/-! ## State -/

/-- Current and previous geometry and the video mode. -/
structure Display where
  current : Geometry
  previous : Geometry
  /-- Committed size in pixels of video memory. -/
  size : Point
  /-- Size that waits to be committed. -/
  pendingSize : Point
  pendingRgb24 : Bool
  /-- Two in modes of doubled height and one otherwise. -/
  lineFactor : Int
  region : Region
  interlaced : Bool
  pendingInterlaced : Bool
  /-- Set until the end of the period in which interlacing was switched on. -/
  justInterlaced : Bool
  /-- Frames that are still held back after interlacing was switched on. -/
  heldFrames : Nat
  /-- Lines, at most zero, by which the displayed part is shortened. -/
  heightOffset : Int
  /-- Positions that still set both generations at once. -/
  seedsLeft : Nat
deriving DecidableEq, Repr

namespace Display

/-- Recompute the lower right corner of both generations. -/
def updateCorners (display : Display) : Display :=
  let corner (geometry : Geometry) : Geometry :=
    { geometry with
      corner :=
        { x := geometry.position.x + display.size.x
          y := geometry.position.y + display.size.y + display.heightOffset } }
  { display with current := corner display.current, previous := corner display.previous }

/-- The display at power-on. -/
def initial : Display :=
  updateCorners
    { current := {}
      previous := {}
      size := ⟨displayWidths[0], 240⟩
      pendingSize := ⟨displayWidths[0], 240⟩
      pendingRgb24 := false
      lineFactor := 1
      region := .ntsc
      interlaced := false
      pendingInterlaced := false
      justInterlaced := false
      heldFrames := 0
      heightOffset := 0
      seedsLeft := 2 }

instance : Inhabited Display := ⟨initial⟩

/-! ## Display commands -/

/-- Switch the picture on or off, in the status register too. -/
def setEnabled (display : Display) (disabled : Bool) (status : Status) : Display × Status :=
  ({ display with
      previous := { display.previous with disabled := display.current.disabled }
      current := { display.current with disabled := disabled } },
   status.assign Status.Mask.displayDisabled disabled)

/-- The position that two raw ten-bit fields stand for, and the lines that it takes off the
height: a line number of 512 or more is negative, and columns beyond 1000 count as zero. -/
def decodePosition (lineFactor : Int) (x y : Nat) : Point × Int :=
  let column := x % 1024
  let line := y % 1024
  let columnInside : Int := if column > 1000 then 0 else column
  if line < 512 then
    (⟨columnInside, line⟩, 0)
  else
    (⟨columnInside, 0⟩, Int.tdiv ((line : Int) - 1024) lineFactor)

/-- Replace the current position by a new one.  The previous generation takes the old position;
with `swapped` generations it is the other way around. -/
def shiftPosition (display : Display) (position : Point) (swapped : Bool) : Display :=
  if swapped then
    { display with
      current := { display.current with position := display.previous.position }
      previous := { display.previous with position := position } }
  else
    { display with
      previous := { display.previous with position := display.current.position }
      current := { display.current with position := position } }

/-- Set the start of the displayed area.  The first positions after a reset set both
generations.  The flag is false when nothing was recomputed, that is, when the output is
progressive and the position did not move. -/
def setPosition (display : Display) (x y : Nat) (swapped : Bool) : Bool × Display :=
  let (position, heightOffset) := decodePosition display.lineFactor x y
  let display := { display with heightOffset := heightOffset }
  match display.seedsLeft with
  | seeds + 1 =>
    (true, updateCorners
      { display with
        seedsLeft := seeds
        current := { display.current with position := position }
        previous := { display.previous with position := position } })
  | 0 =>
    let display := display.shiftPosition position swapped
    let moved := decide (display.current.position ≠ display.previous.position)
    if !display.pendingInterlaced && !moved then
      (false, display)
    else
      let display := display.updateCorners
      if display.pendingInterlaced && moved then
        (true, { display with heldFrames := display.heldFrames - 1 })
      else
        (true, display)

/-- Set the visible columns of the signal. -/
def setColumns (display : Display) (x0 x1 : Nat) : Display :=
  { display with
    previous := { display.previous with range := display.current.range }
    current := { display.current with range := { display.current.range with x0 := x0, x1 := x1 } } }

/-- Set the visible lines of the signal.  The flag tells whether the visible height changed. -/
def setLines (display : Display) (y0 y1 : Nat) : Bool × Display :=
  let oldHeight := display.current.height
  let height := (y1 : Int) - y0 + display.heightOffset
  let display :=
    { display with
      previous := { display.previous with range := display.current.range, height := oldHeight }
      current :=
        { display.current with
          range := { display.current.range with y0 := y0, y1 := y1 }
          height := height } }
  if oldHeight = height then
    (false, display)
  else
    let lines := height * display.lineFactor
    (true, updateCorners
      { display with
        pendingSize := { display.pendingSize with y := lines }
        size := { display.size with y := lines } })

/-- The horizontal resolution that a mode word selects with its bits 6, 1 and 0. -/
def modeWidth (word : UInt32) : Int :=
  displayWidths.get
    ⟨Word.field word 6 1 * 4 + Word.field word 0 2, by
      have hhigh : Word.field word 6 1 < 2 := Word.field_lt word 6 1
      have hlow : Word.field word 0 2 < 4 := Word.field_lt word 0 2
      omega⟩

/-- Decode a mode word.  Size, color depth and interlacing stay pending. -/
def stageMode (display : Display) (word : UInt32) : Display :=
  let lineFactor : Int := if Word.flag word 2 then 2 else 1
  let interlaced := Word.flag word 5
  let starts := interlaced && !display.pendingInterlaced
  { display with
    pendingSize := ⟨modeWidth word, display.current.height * lineFactor⟩
    lineFactor := lineFactor
    region := if Word.flag word 3 then .pal else .ntsc
    pendingRgb24 := Word.flag word 4
    pendingInterlaced := interlaced
    justInterlaced := starts
    heldFrames := if starts then 2 else if interlaced then display.heldFrames else 0
    previous :=
      if starts then
        { display.previous with position := display.current.position }
      else
        display.previous }

/-- Show the mode of a mode word, already decoded into `display`, in the status register. -/
def showMode (display : Display) (word : UInt32) (status : Status) : Status :=
  status
    |>.replace Status.Mask.widthBits (((word &&& 0x03) <<< 17) ||| ((word &&& 0x40) <<< 10))
    |>.assign Status.Mask.interlaced display.pendingInterlaced
    |>.assign Status.Mask.pal (display.region = .pal)
    |>.assign Status.Mask.doubleHeight (display.lineFactor = 2)
    |>.assign Status.Mask.rgb24 display.pendingRgb24

/-- Set the display mode, in the status register too.  The flag tells whether the frame rate is
affected: the region or the interlacing changed. -/
def setMode (display : Display) (word : UInt32) (status : Status) : Bool × Display × Status :=
  let staged := display.stageMode word
  (staged.region ≠ display.region || staged.pendingInterlaced != display.pendingInterlaced,
   staged, staged.showMode word status)

/-! ## Committing and presenting -/

/-- Whether a mode waits to be committed. -/
def hasPending (display : Display) : Bool :=
  display.pendingSize ≠ display.size || display.pendingRgb24 != display.current.rgb24 ||
    display.pendingInterlaced != display.interlaced

/-- Apply pending size, color depth and interlacing together. -/
def commit (display : Display) : Display :=
  updateCorners
    { display with
      size := display.pendingSize
      previous := { display.previous with rgb24 := display.current.rgb24 }
      current := { display.current with rgb24 := display.pendingRgb24 }
      interlaced := display.pendingInterlaced }

/-- The frame that is presented. -/
def frame (display : Display) (oddField : Bool) : Frame where
  position := display.current.position
  size := display.size
  rgb24 := display.current.rgb24
  interlaced := display.interlaced
  oddField := oddField
  region := display.region

/-! ## Drawing environment -/

/-- Set the upper left corner of the clipping rectangle. -/
def setAreaTopLeft (display : Display) (x y : Nat) : Display :=
  { display with
    previous := { display.previous with drawArea := display.current.drawArea }
    current :=
      { display.current with drawArea := { display.current.drawArea with left := x, top := y } } }

/-- Set the lower right corner of the clipping rectangle. -/
def setAreaBottomRight (display : Display) (x y : Nat) : Display :=
  { display with
    previous := { display.previous with drawArea := display.current.drawArea }
    current :=
      { display.current with
        drawArea := { display.current.drawArea with right := x, bottom := y } } }

/-- Set the offset added to vertices. -/
def setDrawOffset (display : Display) (offset : Point) : Display :=
  { display with
    previous := { display.previous with drawOffset := display.current.drawOffset }
    current := { display.current with drawOffset := offset } }

end Display

end GpuCore
