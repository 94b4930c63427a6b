import GpuCore.Gpu

/-!
# Equality up to the pace

The pacer decides which periods are rendered, and therefore which primitives and frames the
renderer is told.  Two states are equal up to the pace when they agree on everything else.

Main definitions:

- `Event.isSkippable`: primitives and frames.
- `Display.withoutHold`: the display apart from the frames that are held back.
- `Gpu.EqUpToPace`: two states that agree on all that does not depend on the pace.

Main results:

- `Display.eq_of_withoutHold`, `Display.setPosition_congr`: what does not ask for the hold.
- `Gpu.EqUpToPace.emit`, `Gpu.EqUpToPace.emit_skippable`: what the renderer is told.
-/

namespace GpuCore

/-! ## What depends on the pace -/

/-- What the renderer is told only in periods that are rendered. -/
def Event.isSkippable (event : Event) : Bool :=
  event.isPrimitive || event.isFrame

/-- The display apart from the number of frames that are held back. -/
def Display.withoutHold (display : Display) : Display :=
  { display with heldFrames := 0 }

namespace Gpu

/-- The log without primitives and frames. -/
def lastingEvents (gpu : Gpu) : Array Event :=
  gpu.events.filter fun event => !event.isSkippable

/-- The two states differ at most in the pacer and its settings, in the skipping of the current
period, in the number of frames that are held back, and in the primitives and frames that the
renderer was told. -/
structure EqUpToPace (left right : Gpu) : Prop where
  doubledMemory : left.settings.doubledMemory = right.settings.doubledMemory
  fixes : left.settings.fixes = right.settings.fixes
  vram : left.vram = right.vram
  status : left.status = right.status
  display : left.display.withoutHold = right.display.withoutHold
  assembler : left.assembler = right.assembler
  upload : left.upload = right.upload
  download : left.download = right.download
  control : left.control = right.control
  latches : left.latches = right.latches
  drawMode : left.drawMode = right.drawMode
  dataWord : left.dataWord = right.dataWord
  statusReads : left.statusReads = right.statusReads
  saveSlot : left.saveSlot = right.saveSlot
  lastingEvents : left.lastingEvents = right.lastingEvents

end Gpu

/-! ## The display -/

namespace Display

variable {left right : Display}

/-- Displays that agree but for the hold are one display with two holds. -/
theorem exists_hold (h : left.withoutHold = right.withoutHold) :
    ∃ held, right = { left with heldFrames := held } := by
  refine ⟨right.heldFrames, ?_⟩
  have hback (display : Display) :
      { display.withoutHold with heldFrames := display.heldFrames } = display := rfl
  rw [← hback right, ← h]
  rfl

/-- What does not ask how many frames are held back is the same for displays that agree on
everything else. -/
theorem eq_of_withoutHold {α : Type} (f : Display → α)
    (hf : ∀ display held, f { display with heldFrames := held } = f display)
    (h : left.withoutHold = right.withoutHold) : f left = f right := by
  obtain ⟨held, rfl⟩ := exists_hold h
  exact (hf left held).symm

/-- Shifting generations does not ask how many frames are held back. -/
theorem shiftPosition_withHold (display : Display) (held : Nat) (position : Point)
    (swapped : Bool) :
    { display with heldFrames := held }.shiftPosition position swapped =
      { display.shiftPosition position swapped with heldFrames := held } := by
  unfold shiftPosition
  split <;> rfl

/-- Neither the flag nor the rest of the display after a new position depends on the hold. -/
theorem setPosition_congr (h : left.withoutHold = right.withoutHold) (x y : Nat)
    (swapped : Bool) :
    (left.setPosition x y swapped).1 = (right.setPosition x y swapped).1 ∧
      (left.setPosition x y swapped).2.withoutHold =
        (right.setPosition x y swapped).2.withoutHold := by
  obtain ⟨held, rfl⟩ := exists_hold h
  unfold setPosition
  cases hseeds : left.seedsLeft with
  | succ seeds => exact ⟨rfl, rfl⟩
  | zero =>
      let decoded := decodePosition left.lineFactor x y
      have hshift := shiftPosition_withHold { left with heightOffset := decoded.2 } held
        decoded.1 swapped
      rw [hseeds] at hshift
      dsimp only [decoded] at hshift ⊢
      rw [hshift]
      generalize shiftPosition _ _ swapped = shifted
      dsimp only [updateCorners]
      by_cases hlaced : shifted.pendingInterlaced = true <;>
        by_cases hmoved : shifted.current.position = shifted.previous.position <;>
        simp [hlaced, hmoved, withoutHold]

/-- Neither the flag nor the rest of the display after a new vertical range depends on the hold. -/
theorem setLines_congr (h : left.withoutHold = right.withoutHold) (y0 y1 : Nat) :
    (left.setLines y0 y1).1 = (right.setLines y0 y1).1 ∧
      (left.setLines y0 y1).2.withoutHold = (right.setLines y0 y1).2.withoutHold := by
  obtain ⟨held, rfl⟩ := exists_hold h
  unfold setLines
  dsimp only
  split <;> exact ⟨rfl, rfl⟩

end Display

namespace Gpu

namespace EqUpToPace

variable {left right third : Gpu}

theorem refl (gpu : Gpu) : EqUpToPace gpu gpu :=
  ⟨rfl, rfl, rfl, rfl, rfl, rfl, rfl, rfl, rfl, rfl, rfl, rfl, rfl, rfl, rfl⟩

/-- Either of the states may come first. -/
theorem symm (h : EqUpToPace left right) : EqUpToPace right left where
  doubledMemory := h.doubledMemory.symm
  fixes := h.fixes.symm
  vram := h.vram.symm
  status := h.status.symm
  display := h.display.symm
  assembler := h.assembler.symm
  upload := h.upload.symm
  download := h.download.symm
  control := h.control.symm
  latches := h.latches.symm
  drawMode := h.drawMode.symm
  dataWord := h.dataWord.symm
  statusReads := h.statusReads.symm
  saveSlot := h.saveSlot.symm
  lastingEvents := h.lastingEvents.symm

/-- What agrees with a state up to the pace agrees with all that this one agrees with. -/
theorem trans (h : EqUpToPace left right) (h' : EqUpToPace right third) :
    EqUpToPace left third where
  doubledMemory := h.doubledMemory.trans h'.doubledMemory
  fixes := h.fixes.trans h'.fixes
  vram := h.vram.trans h'.vram
  status := h.status.trans h'.status
  display := h.display.trans h'.display
  assembler := h.assembler.trans h'.assembler
  upload := h.upload.trans h'.upload
  download := h.download.trans h'.download
  control := h.control.trans h'.control
  latches := h.latches.trans h'.latches
  drawMode := h.drawMode.trans h'.drawMode
  dataWord := h.dataWord.trans h'.dataWord
  statusReads := h.statusReads.trans h'.statusReads
  saveSlot := h.saveSlot.trans h'.saveSlot
  lastingEvents := h.lastingEvents.trans h'.lastingEvents

/-! ## Fields -/

theorem withVram (h : EqUpToPace left right) {vram vram' : Vram.Memory} (hvram : vram = vram') :
    EqUpToPace { left with vram := vram } { right with vram := vram' } :=
  { h with vram := hvram }

theorem withStatus (h : EqUpToPace left right) {status status' : Status}
    (hstatus : status = status') :
    EqUpToPace { left with status := status } { right with status := status' } :=
  { h with status := hstatus }

/-- The drawing environment is kept in latches and display. -/
theorem withEnvironment (h : EqUpToPace left right) {latches latches' : Latches}
    {display display' : Display} (hlatches : latches = latches')
    (hdisplay : display.withoutHold = display'.withoutHold) :
    EqUpToPace { left with latches := latches, display := display }
      { right with latches := latches', display := display' } :=
  { h with latches := hlatches, display := hdisplay }

/-- Displays that agree but for the hold agree so after a command that does not ask for it. -/
theorem display_congr (h : EqUpToPace left right) (f : Display → Display)
    (hf : ∀ display held,
      (f { display with heldFrames := held }).withoutHold = (f display).withoutHold) :
    (f left.display).withoutHold = (f right.display).withoutHold :=
  Display.eq_of_withoutHold (fun display => (f display).withoutHold) hf h.display

/-- A mode is kept in the display and shown in the status word. -/
theorem withDisplay (h : EqUpToPace left right) {display display' : Display}
    {status status' : Status} (hdisplay : display.withoutHold = display'.withoutHold)
    (hstatus : status = status') :
    EqUpToPace { left with display := display, status := status }
      { right with display := display', status := status' } :=
  { h with display := hdisplay, status := hstatus }

/-! ## Telling the renderer -/

/-- Primitives and frames do not last in the log. -/
theorem lastingEvents_emit (gpu : Gpu) (event : Event) :
    (gpu.emit event).lastingEvents =
      if event.isSkippable then gpu.lastingEvents else gpu.lastingEvents.push event := by
  unfold Gpu.lastingEvents
  rw [emit, Array.filter_push]
  cases event.isSkippable <;> rfl

/-- Both states may tell the renderer the same. -/
theorem emit (h : EqUpToPace left right) (event : Event) :
    EqUpToPace (left.emit event) (right.emit event) :=
  { h with
    lastingEvents := by
      rw [lastingEvents_emit, lastingEvents_emit, h.lastingEvents] }

/-- Primitives and frames may be told to one of the two only. -/
theorem emit_skippable (gpu : Gpu) {event : Event} (hskippable : event.isSkippable = true) :
    EqUpToPace (gpu.emit event) gpu :=
  { refl gpu with
    lastingEvents := by
      rw [lastingEvents_emit, if_pos hskippable] }

/-! ## Refusals -/

/-- Both states have video memory, or neither. -/
theorem isInitialized (h : EqUpToPace left right) : left.isInitialized = right.isInitialized := by
  rw [Gpu.isInitialized, Gpu.isInitialized, h.vram]

/-- Both states refuse an operation that needs video memory, or both carry it out. -/
theorem ifInitialized (h : EqUpToPace left right) {α : Type} (run : Gpu → Except Fault α × Gpu)
    (hrun : (run left).1 = (run right).1 ∧ EqUpToPace (run left).2 (run right).2) :
    (left.ifInitialized run).1 = (right.ifInitialized run).1 ∧
      EqUpToPace (left.ifInitialized run).2 (right.ifInitialized run).2 := by
  unfold Gpu.ifInitialized
  rw [h.isInitialized]
  split
  · exact hrun
  · exact ⟨rfl, h⟩

end EqUpToPace

end Gpu

end GpuCore
