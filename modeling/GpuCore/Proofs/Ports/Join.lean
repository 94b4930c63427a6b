import GpuCore.Proofs.DataChannel.Frame
import GpuCore.Proofs.Vram.History

/-!
# The two sides of the state

The data channel and the display commands of the control port share the status word, both
generations of geometry and the log, but no bit and no field of them.  A state therefore falls into
two sides, and any two sides can be put together.  Work on one side is the same whatever the other
side is, and it leaves that alone.

Main definitions:

- `Status.join` and `Display.withDrawingOf`: a status register and a display made up of two sides.
- `Gpu.Joined`: a state made up of two sides.
- `Gpu.Beside` and `Gpu.Below`: the same, with what one of the sides has told the renderer.
- `Gpu.ActsOnData` and `Gpu.ActsOnControl`: work that goes on at one side alone.

Main results:

- `Status.join_replace_left` and `Status.join_replace_right`: groups of the status word belong to
  one side.
- `Gpu.ActsOnData.exists_told` and `Gpu.ActsOnControl.exists_told`: what work on one side does to a
  whole state, and what it tells the renderer there.
-/

namespace GpuCore

/-! ## The status register -/

namespace Status

/-- The register with the data bits, and the busy reads, of `data` and all other bits of
`control`. -/
def join (data control : Status) : Status where
  word := (control.word &&& ~~~Mask.port) ||| (data.word &&& Mask.port)
  busyReads := data.busyReads

/-- Bits of the data side come from there, all others from the control side. -/
theorem getElem_join (data control : Status) (i : Nat) (hi : i < 32) :
    (data.join control).word.toBitVec[i] =
      if Mask.port.toBitVec[i] then data.word.toBitVec[i] else control.word.toBitVec[i] := by
  cases hport : Mask.port.toBitVec[i] <;> simp [join, hport]

@[simp]
theorem join_self (status : Status) : status.join status = status := by
  refine ext_bits (fun i hi => ?_) rfl
  rw [getElem_join, ite_self]

/-- Of the control side only its bits count, not what it was put together with. -/
@[simp]
theorem join_join_left (first second control : Status) :
    (first.join second).join control = first.join control := by
  refine ext_bits (fun i hi => ?_) rfl
  simp only [getElem_join]
  split <;> rfl

@[simp]
theorem join_join_right (data first second : Status) :
    data.join (first.join second) = data.join second := by
  refine ext_bits (fun i hi => ?_) rfl
  simp only [getElem_join]
  split <;> rfl

variable (data control : Status) {mask : UInt32}

/-- A group of data bits is replaced at the data side. -/
theorem join_replace_left (hdata : mask &&& ~~~Mask.port = 0) (value : UInt32) :
    (data.join control).replace mask value = (data.replace mask value).join control := by
  refine ext_bits (fun i hi => ?_) rfl
  have hbit := getElem_of_disjoint hdata i hi
  simp only [getElem_join, getElem_replace]
  cases hmask : mask.toBitVec[i] with
  | false => rfl
  | true =>
      have hport : Mask.port.toBitVec[i] = true := by simpa [hmask] using hbit
      simp [hport]

/-- A group without data bits is replaced at the control side. -/
theorem join_replace_right (hcontrol : mask &&& Mask.port = 0) (value : UInt32) :
    (data.join control).replace mask value = data.join (control.replace mask value) := by
  refine ext_bits (fun i hi => ?_) rfl
  have hbit := getElem_of_disjoint hcontrol i hi
  simp only [getElem_join, getElem_replace]
  cases hmask : mask.toBitVec[i] with
  | false => rfl
  | true =>
      have hport : Mask.port.toBitVec[i] = false := by simpa [hmask] using hbit
      simp [hport]

/-- Bits of the data side are set at the data side. -/
theorem join_set_left (hdata : mask &&& ~~~Mask.port = 0) :
    (data.join control).set mask = (data.set mask).join control := by
  rw [set_eq_replace, set_eq_replace, join_replace_left data control hdata]

/-- Bits of the data side are cleared at the data side. -/
theorem join_unset_left (hdata : mask &&& ~~~Mask.port = 0) :
    (data.join control).unset mask = (data.unset mask).join control := by
  rw [unset_eq_replace, unset_eq_replace, join_replace_left data control hdata]

/-- Bits of the control side are cleared at the control side. -/
theorem join_unset_right (hcontrol : mask &&& Mask.port = 0) :
    (data.join control).unset mask = data.join (control.unset mask) := by
  rw [unset_eq_replace, unset_eq_replace, join_replace_right data control hcontrol]

/-- Bits of the control side are assigned at the control side. -/
theorem join_assign_right (hcontrol : mask &&& Mask.port = 0) (enabled : Bool) :
    (data.join control).assign mask enabled = data.join (control.assign mask enabled) := by
  rw [assign_eq_replace, assign_eq_replace, join_replace_right data control hcontrol]

end Status

/-! ## The display -/

namespace Display

/-- The display with the drawing environment that both generations of `source` carry. -/
def withDrawingOf (display source : Display) : Display :=
  { display with
    current :=
      { display.current with
        drawOffset := source.current.drawOffset
        drawArea := source.current.drawArea }
    previous :=
      { display.previous with
        drawOffset := source.previous.drawOffset
        drawArea := source.previous.drawArea } }

end Display

namespace Gpu

/-! ## Two sides put together -/

/-- `whole` has the data side of `data` and the control side of `control`.  The addresses of the
loop detector count as a part of the control side, since no word that is written touches them. -/
structure Joined (data control whole : Gpu) : Prop where
  settings : whole.settings = data.settings
  settings_control : control.settings = data.settings
  vram : whole.vram = data.vram.withHistory control.vram.history
  assembler : whole.assembler = data.assembler
  upload : whole.upload = data.upload
  download : whole.download = data.download
  latches : whole.latches = data.latches
  drawMode : whole.drawMode = data.drawMode
  dataWord : whole.dataWord = data.dataWord
  skipping : whole.skipping = data.skipping
  statusReads : whole.statusReads = data.statusReads
  saveSlot : whole.saveSlot = data.saveSlot
  status : whole.status = data.status.join control.status
  display : whole.display = control.display.withDrawingOf data.display
  pacer : whole.pacer = control.pacer
  slots : whole.control = control.control

namespace Joined

variable {data control whole : Gpu}

/-- A state is made up of its own two sides. -/
theorem refl (gpu : Gpu) : Joined gpu gpu gpu where
  settings := rfl
  settings_control := rfl
  vram := rfl
  assembler := rfl
  upload := rfl
  download := rfl
  latches := rfl
  drawMode := rfl
  dataWord := rfl
  skipping := rfl
  statusReads := rfl
  saveSlot := rfl
  status := (Status.join_self gpu.status).symm
  display := rfl
  pacer := rfl
  slots := rfl

/-- Two sides make up one state, apart from what it has told. -/
theorem unique {whole' : Gpu} (h : Joined data control whole)
    (h' : Joined data control whole') : whole.clearEvents = whole'.clearEvents := by
  cases whole
  cases whole'
  simp only [clearEvents, mk.injEq, and_true]
  exact ⟨h.settings.trans h'.settings.symm, h.vram.trans h'.vram.symm,
    h.status.trans h'.status.symm, h.display.trans h'.display.symm,
    h.assembler.trans h'.assembler.symm, h.upload.trans h'.upload.symm,
    h.download.trans h'.download.symm, h.slots.trans h'.slots.symm,
    h.latches.trans h'.latches.symm, h.drawMode.trans h'.drawMode.symm,
    h.dataWord.trans h'.dataWord.symm, h.pacer.trans h'.pacer.symm,
    h.skipping.trans h'.skipping.symm, h.statusReads.trans h'.statusReads.symm,
    h.saveSlot.trans h'.saveSlot.symm⟩

/-- The data side may be taken from any state that has it. -/
theorem withData {other data' : Gpu} (h : Joined data control whole)
    (h' : Joined data other data') : Joined data' control whole where
  settings := h.settings.trans h'.settings.symm
  settings_control := h.settings_control.trans h'.settings.symm
  vram := by rw [h'.vram, Vram.Memory.withHistory_withHistory, h.vram]
  assembler := h.assembler.trans h'.assembler.symm
  upload := h.upload.trans h'.upload.symm
  download := h.download.trans h'.download.symm
  latches := h.latches.trans h'.latches.symm
  drawMode := h.drawMode.trans h'.drawMode.symm
  dataWord := h.dataWord.trans h'.dataWord.symm
  skipping := h.skipping.trans h'.skipping.symm
  statusReads := h.statusReads.trans h'.statusReads.symm
  saveSlot := h.saveSlot.trans h'.saveSlot.symm
  status := by rw [h'.status, Status.join_join_left, h.status]
  display := by rw [h'.display, h.display]; rfl
  pacer := h.pacer
  slots := h.slots

/-- The control side may be taken from any state that has it. -/
theorem withControl {other control' : Gpu} (h : Joined data control whole)
    (h' : Joined other control control') : Joined data control' whole :=
  { h with
    settings_control := (h'.settings.trans h'.settings_control.symm).trans h.settings_control
    vram := by rw [h'.vram, Vram.Memory.history_withHistory, h.vram]
    status := by rw [h'.status, Status.join_join_right, h.status]
    display := by rw [h'.display, h.display]; rfl
    pacer := h.pacer.trans h'.pacer.symm
    slots := h.slots.trans h'.slots.symm }

end Joined

/-- A data side within a whole state, which has told the renderer what is in `log`, and then what
the data side has told. -/
structure Beside (log : Array Event) (data control whole : Gpu) : Prop
    extends Joined data control whole where
  events : whole.events = log ++ data.events

/-- A control side within a whole state, which has told the renderer what is in `log`, and then what
the control side has told. -/
structure Below (log : Array Event) (data control whole : Gpu) : Prop
    extends Joined data control whole where
  events : whole.events = log ++ control.events

/-! ## Work on one side -/

/-- Work on the data side: it is the same beside any control side and behind any log. -/
def ActsOnData (f : Gpu → Gpu) : Prop :=
  ∀ ⦃log : Array Event⦄ ⦃data control whole : Gpu⦄,
    Beside log data control whole → Beside log (f data) control (f whole)

/-- Work on the control side: it is the same below any data side and behind any log. -/
def ActsOnControl (f : Gpu → Gpu) : Prop :=
  ∀ ⦃log : Array Event⦄ ⦃data control whole : Gpu⦄,
    Below log data control whole → Below log data (f control) (f whole)

/-- Work on the data side tells the same in every state with that side, and keeps the other side. -/
theorem ActsOnData.exists_told {f : Gpu → Gpu} (hf : ActsOnData f) {data control whole : Gpu}
    (h : Joined data control whole) :
    ∃ told, Joined (f data) control (f whole) ∧ (f whole).events = whole.events ++ told ∧
      (f data).events = data.events ++ told := by
  -- The data side is taken apart from all that it and the whole have told so far.
  have hwhole : Beside whole.events data.clearEvents control whole :=
    { h with events := Array.append_empty.symm }
  have hdata : Beside data.events data.clearEvents data data :=
    { Joined.refl data with events := Array.append_empty.symm }
  exact ⟨_, (hf hwhole).toJoined.withData (hf hdata).toJoined, (hf hwhole).events,
    (hf hdata).events⟩

/-- Work on the control side tells the same in every state with that side, and keeps the other
side. -/
theorem ActsOnControl.exists_told {f : Gpu → Gpu} (hf : ActsOnControl f)
    {data control whole : Gpu} (h : Joined data control whole) :
    ∃ told, Joined data (f control) (f whole) ∧ (f whole).events = whole.events ++ told ∧
      (f control).events = control.events ++ told := by
  have hwhole : Below whole.events data control.clearEvents whole :=
    { h with events := Array.append_empty.symm }
  have hcontrol : Below control.events control control.clearEvents control :=
    { Joined.refl control with events := Array.append_empty.symm }
  exact ⟨_, (hf hwhole).toJoined.withControl (hf hcontrol).toJoined, (hf hwhole).events,
    (hf hcontrol).events⟩

end Gpu

end GpuCore
