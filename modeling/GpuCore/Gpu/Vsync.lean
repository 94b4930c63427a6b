import GpuCore.Gpu

/-!
# The end of a period

At the end of every period a pending display mode is applied, the field flips, the pacer is
waited for, and the frame is presented unless the coming period is skipped, the picture is off
or a pair of fields is still settling.

Main definitions:

- `Gpu.applyMode`: commit a pending display mode.
- `Gpu.endPeriod`: the end of a period.
-/

namespace GpuCore.Gpu

/-- Commit the pending display mode, if there is one. -/
def applyMode (gpu : Gpu) : Gpu :=
  if gpu.display.hasPending then
    emit { gpu with display := gpu.display.commit } .displayMoved
  else
    gpu

/-- Flip the field of an interlaced picture, unless status reads do so. -/
def flipField (gpu : Gpu) : Gpu :=
  if gpu.display.interlaced && !gpu.settings.fixes.contains .oddEvenToggle then
    { gpu with status := gpu.status.toggle Status.Mask.oddLines }
  else
    gpu

/-- Whether the odd field is current. -/
def isOddField (gpu : Gpu) : Bool :=
  gpu.status.any Status.Mask.oddLines

/-- Ask the pacer about the coming period. -/
def awaitPeriod (gpu : Gpu) (pause : UInt64) : Gpu :=
  let (action, pacer) := gpu.pacer.wait gpu.settings.pacing.frameLimit gpu.isOddField pause
  { gpu with pacer := pacer, skipping := action = .skip }

/-- Present the frame, unless it is skipped, switched off or held back. -/
def present (gpu : Gpu) : Gpu :=
  if gpu.skipping || gpu.display.current.disabled then
    gpu
  else
    match gpu.display.heldFrames with
    | held + 1 => { gpu with display := { gpu.display with heldFrames := held } }
    | 0 => gpu.emit (.frame (gpu.display.frame gpu.isOddField))

/-- The end of a period.  `pause` is the time after which a pause that blocks it is lifted. -/
def endPeriod (gpu : Gpu) (pause : UInt64) : Gpu :=
  let gpu := (gpu.applyMode.flipField.awaitPeriod pause).present
  { gpu with display := { gpu.display with justInterlaced := false } }

end GpuCore.Gpu
