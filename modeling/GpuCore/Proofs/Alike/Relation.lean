import GpuCore.Gpu.Drawing
import GpuCore.Proofs.Vram.SameImage

/-!
# Processors that act alike

Two processors act alike on every further word when they agree on settings and rate, on the image
and on all registers, packets and transfers.  They may differ in what a word does not depend on: the
margins of video memory, the word latched for the data channel, counts of status reads, the save
slot, the clock, and what the renderer was told before.  A period may be skipped by one of them
only, which then keeps its primitives from the renderer.

Main definitions:

- `Gpu.SameSetup`: two processors with the same settings and rates.
- `Gpu.Alike`: two processors that agree on all that a word can depend on.
- `Gpu.heard` and `Gpu.AlikeSince`: and whose renderers are told the same from some point on.

Main results:

- `Gpu.AlikeSince.emit` and `Gpu.AlikeSince.drawPrimitive`: telling both renderers the same.
-/

namespace GpuCore.Gpu

/-! ## The relations -/

/-- The two processors have the same settings, and their pacers count the same rates in the same
ticks. -/
structure SameSetup (left right : Gpu) : Prop where
  settings : left.settings = right.settings
  ticksPerSecond : left.pacer.ticksPerSecond = right.pacer.ticksPerSecond
  chipAccurate : left.pacer.chipAccurate = right.pacer.chipAccurate

/-- The two processors agree on all that words written to the ports depend on and change. -/
structure Alike (left right : Gpu) : Prop extends SameSetup left right where
  image : left.vram.SameImage right.vram
  status : left.status = right.status
  display : left.display = right.display
  assembler : left.assembler = right.assembler
  upload : left.upload = right.upload
  download : left.download = right.download
  control : left.control = right.control
  latches : left.latches = right.latches
  drawMode : left.drawMode = right.drawMode
  timing : left.pacer.timing = right.pacer.timing

/-- What the renderer hears of a list of events: all of them, or all but the primitives in a period
that is skipped. -/
def heard (skipping : Bool) (told : List Event) : Array Event :=
  (told.filter fun event => !(skipping && event.isPrimitive)).toArray

/-- The two processors agree, and the same events were told to both renderers since their logs were
`leftLog` and `rightLog`. -/
structure AlikeSince (leftLog rightLog : Array Event) (left right : Gpu) : Prop
    extends Alike left right where
  told : ∃ told, left.events = leftLog ++ heard left.skipping told ∧
    right.events = rightLog ++ heard right.skipping told

variable {leftLog rightLog : Array Event} {left right : Gpu}

/-- Processors that agree have been told the same since now. -/
theorem Alike.since (h : Alike left right) :
    AlikeSince left.events right.events left right :=
  { h with told := ⟨[], by simp [heard], by simp [heard]⟩ }

/-- One more event is heard, unless it is a primitive in a period that is skipped. -/
theorem heard_append (skipping : Bool) (told : List Event) (event : Event) :
    heard skipping (told ++ [event]) =
      if skipping && event.isPrimitive then heard skipping told
      else (heard skipping told).push event := by
  unfold heard
  rw [List.filter_append, List.filter_cons]
  cases skipping && event.isPrimitive <;> simp

namespace AlikeSince

/-! ## Fields -/

theorem withImage (h : AlikeSince leftLog rightLog left right) {vram vram' : Vram.Memory}
    (himage : vram.SameImage vram') :
    AlikeSince leftLog rightLog { left with vram := vram } { right with vram := vram' } :=
  { h with image := himage }

theorem withStatus (h : AlikeSince leftLog rightLog left right) {status status' : Status}
    (hstatus : status = status') :
    AlikeSince leftLog rightLog { left with status := status }
      { right with status := status' } :=
  { h with status := hstatus }

theorem withDisplay (h : AlikeSince leftLog rightLog left right) {display display' : Display}
    {status status' : Status} (hdisplay : display = display') (hstatus : status = status') :
    AlikeSince leftLog rightLog { left with display := display, status := status }
      { right with display := display', status := status' } :=
  { h with display := hdisplay, status := hstatus }

/-- The drawing environment is kept in latches and display. -/
theorem withEnvironment (h : AlikeSince leftLog rightLog left right) {latches latches' : Latches}
    {display display' : Display} (hlatches : latches = latches') (hdisplay : display = display') :
    AlikeSince leftLog rightLog { left with latches := latches, display := display }
      { right with latches := latches', display := display' } :=
  { h with latches := hlatches, display := hdisplay }

/-! ## Telling the renderer -/

/-- What is no primitive is heard by both renderers. -/
theorem emit (h : AlikeSince leftLog rightLog left right) {event : Event}
    (hlasting : event.isPrimitive = false) :
    AlikeSince leftLog rightLog (left.emit event) (right.emit event) := by
  obtain ⟨told, hleft, hright⟩ := h.told
  have hheard (skipping : Bool) :
      heard skipping (told ++ [event]) = (heard skipping told).push event := by
    rw [heard_append, hlasting, Bool.and_false, if_neg Bool.false_ne_true]
  refine { h with told := ⟨told ++ [event], ?_, ?_⟩ }
  · rw [Gpu.emit, hleft, hheard, Array.append_push]
  · rw [Gpu.emit, hright, hheard, Array.append_push]

/-- What a primitive adds to the log. -/
theorem events_drawPrimitive (gpu : Gpu) {event : Event} (hprimitive : event.isPrimitive = true)
    {log : Array Event} {told : List Event}
    (hevents : gpu.events = log ++ heard gpu.skipping told) :
    (gpu.drawPrimitive (some event)).events = log ++ heard gpu.skipping (told ++ [event]) := by
  rw [heard_append, hprimitive, Bool.and_true, drawPrimitive]
  split
  · exact hevents
  · dsimp only [Gpu.emit]
    rw [hevents, Array.append_push]

/-- A primitive is told to both renderers and heard by those whose period is not skipped. -/
theorem drawPrimitive (h : AlikeSince leftLog rightLog left right) {event? : Option Event}
    (hprimitive : ∀ event ∈ event?, event.isPrimitive = true) :
    AlikeSince leftLog rightLog (left.drawPrimitive event?) (right.drawPrimitive event?) := by
  have hnone (gpu : Gpu) : gpu.drawPrimitive none = gpu := by
    unfold Gpu.drawPrimitive
    split <;> rfl
  -- Only the log can show whether a primitive was heard.
  have hrest (gpu : Gpu) (event : Event) : gpu.drawPrimitive (some event) =
      { gpu with events := (gpu.drawPrimitive (some event)).events } := by
    unfold Gpu.drawPrimitive
    split <;> rfl
  cases event? with
  | none => rwa [hnone, hnone]
  | some event =>
      obtain ⟨told, hleft, hright⟩ := h.told
      have hevent := hprimitive event rfl
      rw [hrest left, hrest right]
      exact { h with
        told := ⟨told ++ [event], events_drawPrimitive left hevent hleft,
          events_drawPrimitive right hevent hright⟩ }

end AlikeSince

end GpuCore.Gpu
