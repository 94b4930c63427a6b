import GpuCore.Vram.Area

/-!
# Image transfers

The data channel streams one area of video memory, two pixels to a word and the lower half of the
word first.  A job is what is left of such a stream; it ends with its last pixel.  A transfer
keeps a job together with the selection of its direction: a job whose direction is deselected is
suspended, and a selected direction without a job has nothing to do.

Main definitions:

- `Job`: the area, the pixels and lines that are left, and the cursor.
- `Job.store` and `Job.fetch`: one data word into or out of video memory.
- `Job.advanceWord`: the job after that word.
- `Transfer`: the direction's selection and its job.
-/

namespace GpuCore.Vram

/-! ## Jobs -/

/-- The rest of a stream of pixels.  A job always has a pixel left. -/
structure Job where
  area : Area
  /-- Pixels left on the current line. -/
  pixelsLeft : Nat
  /-- Lines left, the current one included. -/
  linesLeft : Nat
  /-- Position of the next pixel. -/
  position : Nat
deriving DecidableEq, Repr, Inhabited

namespace Job

/-- The stream of a whole area. -/
def start (memory : Memory) (area : Area) : Job where
  area := area
  pixelsLeft := area.width
  linesLeft := area.height
  position := memory.position area.x area.y

/-- The position behind the next pixel, which skips the rest of the stride at the end of a
line. -/
def nextPosition (job : Job) (memory : Memory) : Nat :=
  let beside := memory.wrap (job.position + 1)
  if 1 < job.pixelsLeft then beside else memory.wrap (beside + (width - job.area.width))

/-- The job after its next pixel; `none` after the last one. -/
def advance (job : Job) (memory : Memory) : Option Job :=
  if 1 < job.pixelsLeft then
    some { job with
      pixelsLeft := job.pixelsLeft - 1
      position := job.nextPosition memory }
  else if 1 < job.linesLeft then
    some { job with
      pixelsLeft := job.area.width
      linesLeft := job.linesLeft - 1
      position := job.nextPosition memory }
  else
    none

/-- The job after its next two pixels; `none` when no pixel follows them. -/
def advanceWord (job : Job) (memory : Memory) : Option Job :=
  (job.advance memory).bind fun job => job.advance memory

/-- Store the two pixels of a word.  The upper half is dropped when the lower one is the last
pixel of the job. -/
def store (job : Job) (memory : Memory) (word : UInt32) : Memory :=
  match job.advance memory with
  | none => memory.write job.position (Word.low word)
  | some next =>
    (memory.write job.position (Word.low word)).write next.position (Word.high word)

/-- Fetch the next two pixels as a word.  When only one pixel is left, the upper half holds the
pixel under the cursor that follows it. -/
def fetch (job : Job) (memory : Memory) : UInt32 × Option Job :=
  let word := Word.ofHalves (memory.read job.position) (memory.read (job.nextPosition memory))
  (word, job.advanceWord memory)

end Job

/-! ## Transfers -/

/-- One direction of the data channel. -/
structure Transfer where
  /-- The data channel currently carries pixels in this direction. -/
  streaming : Bool := false
  job : Option Job := none
deriving DecidableEq, Repr, Inhabited

namespace Transfer

/-- Begin to stream an area. -/
def start (memory : Memory) (area : Area) : Transfer where
  streaming := true
  job := some (.start memory area)

/-- The transfer of a job that is being streamed, which is over when the job is. -/
def ofRest (job : Option Job) : Transfer where
  streaming := job.isSome
  job := job

/-- The area being transferred, empty when there is no job. -/
def area (transfer : Transfer) : Area :=
  (transfer.job.map Job.area).getD {}

/-- No pixel is left. -/
def isComplete (transfer : Transfer) : Bool :=
  transfer.job.isNone

end Transfer

end GpuCore.Vram
