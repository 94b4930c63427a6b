import GpuCore.Proofs.DataChannel.Chunking
import GpuCore.Proofs.Operation.Frame
import GpuCore.Proofs.Ports.ControlSide
import GpuCore.Proofs.Ports.DataSide

/-!
# Interleaved accesses to the two ports

A program may write display words at any moment, in the middle of a packet or of an image too.  When
it does so makes no difference: any two ways of interleaving the same data words with the same
display words end in the same state, and each port has told the renderer the same.

Main definitions:

- `Operation.onPorts`: chunks of data words, and control words that spare the data side.
- `Operation.dataWords` and `Operation.controlWords`: what a list of accesses writes to either port.
- `Gpu.toldBy`: what the renderer is told by some of the operations of a list.

Main results:

- `Gpu.joined_run`: after any accesses the state is made up of the two sides, each after its own
  words.
- `Gpu.run_interleaved`: only the order at each port counts.
-/

namespace GpuCore

/-! ## Accesses to the ports -/

namespace Operation

/-- A chunk of data words, or a control word that spares the data side. -/
def onPorts : Operation → Bool
  | writeData words => !words.isEmpty
  | writeControl word => Gpu.sparesData word
  | _ => false

/-- A write to the data channel. -/
def writesWords : Operation → Bool
  | writeData _ => true
  | _ => false

/-- The data words that are written, in order. -/
def dataWords (operations : List Operation) : List UInt32 :=
  operations.flatMap fun
    | writeData words => words
    | _ => []

/-- The control words that are written, in order. -/
def controlWords (operations : List Operation) : List UInt32 :=
  operations.filterMap fun
    | writeControl word => some word
    | _ => none

end Operation

namespace Gpu

open Operation

/-! ## One side alone -/

/-- A stream of data words, cut in any way into chunks that are not empty; without words there is no
chunk. -/
def takeStream (gpu : Gpu) (words : List UInt32) : Gpu :=
  if words = [] then gpu else gpu.takeChunk words

/-- The first chunk of a stream. -/
theorem takeStream_append (gpu : Gpu) {chunk : List UInt32} (hchunk : chunk ≠ [])
    (words : List UInt32) :
    gpu.takeStream (chunk ++ words) = (gpu.takeChunk chunk).takeStream words := by
  have hstream : chunk ++ words ≠ [] := by simp [hchunk]
  unfold takeStream
  rw [if_neg hstream]
  split
  · next hend => rw [hend, List.append_nil]
  · exact takeChunk_append gpu chunk words

/-- Control words, one after another. -/
def writeControls (gpu : Gpu) (words : List UInt32) : Gpu :=
  words.foldl writeControl gpu

/-! ## What the renderer is told -/

/-- What the operations in `selected` tell the renderer along a list of operations. -/
def toldBy (selected : Operation → Bool) (gpu : Gpu) : List Operation → List Event
  | [] => []
  | operation :: operations =>
    let after := gpu.apply operation
    (if selected operation then after.events.toList.drop gpu.events.size else []) ++
      after.toldBy selected operations

/-- What an operation tells comes before what the later ones tell. -/
theorem toldBy_cons {selected : Operation → Bool} {gpu : Gpu} {operation : Operation}
    {told : Array Event} (hevents : (gpu.apply operation).events = gpu.events ++ told)
    (operations : List Operation) :
    gpu.toldBy selected (operation :: operations) =
      (if selected operation then told.toList else []) ++
        (gpu.apply operation).toldBy selected operations := by
  simp [toldBy, hevents]

/-! ## Interleavings -/

/-- What a list of accesses does to a state made up of two sides: each side takes its own words, and
what the accesses to one port tell is what that side tells. -/
structure Interleaved (data control whole : Gpu) (operations : List Operation) : Prop where
  joined : Joined (data.takeStream (dataWords operations))
    (control.writeControls (controlWords operations)) (whole.run operations)
  data_events : (data.takeStream (dataWords operations)).events.toList =
    data.events.toList ++ whole.toldBy writesWords operations
  control_events : (control.writeControls (controlWords operations)).events.toList =
    control.events.toList ++ whole.toldBy writesControl operations
  events : (whole.run operations).events.toList =
    whole.events.toList ++ whole.toldBy (fun _ => true) operations

variable {data control whole : Gpu} {operations : List Operation}

/-- A chunk of data words comes first. -/
theorem Interleaved.writeData {chunk : List UInt32} (hchunk : chunk ≠ [])
    (hinit : whole.isInitialized = true) (hjoined : Joined data control whole)
    (hrest : Joined (data.takeChunk chunk) control (whole.takeChunk chunk) →
      Interleaved (data.takeChunk chunk) control (whole.takeChunk chunk) operations) :
    Interleaved data control whole (.writeData chunk :: operations) := by
  obtain ⟨told, hafter, hwhole, hdata⟩ := (actsOnData_takeChunk chunk).exists_told hjoined
  have happly : whole.apply (.writeData chunk) = whole.takeChunk chunk := by
    rw [apply, writeData_of_isInitialized hinit]
  have hevents : (whole.apply (.writeData chunk)).events = whole.events ++ told := by
    rw [happly, hwhole]
  have hlater := hrest hafter
  have hstream : data.takeStream (dataWords (.writeData chunk :: operations)) =
      (data.takeChunk chunk).takeStream (dataWords operations) :=
    takeStream_append data hchunk (dataWords operations)
  refine ⟨?_, ?_, ?_, ?_⟩
  · rw [hstream, run_cons, happly]
    exact hlater.joined
  · rw [hstream, toldBy_cons hevents, happly, hlater.data_events, hdata]
    simp [writesWords]
  · rw [toldBy_cons hevents, happly]
    exact hlater.control_events
  · rw [run_cons, toldBy_cons hevents, happly, hlater.events, hwhole]
    simp

/-- A control word comes first. -/
theorem Interleaved.writeControl {word : UInt32} (hspares : sparesData word = true)
    (hjoined : Joined data control whole)
    (hrest : Joined data (control.writeControl word) (whole.writeControl word) →
      Interleaved data (control.writeControl word) (whole.writeControl word) operations) :
    Interleaved data control whole (.writeControl word :: operations) := by
  obtain ⟨told, hafter, hwhole, hcontrol⟩ :=
    (actsOnControl_writeControl hspares).exists_told hjoined
  have happly : whole.apply (.writeControl word) = whole.writeControl word := rfl
  have hevents : (whole.apply (.writeControl word)).events = whole.events ++ told := hwhole
  have hlater := hrest hafter
  have hwords : control.writeControls (controlWords (.writeControl word :: operations)) =
      (control.writeControl word).writeControls (controlWords operations) := rfl
  refine ⟨hlater.joined, ?_, ?_, ?_⟩
  · rw [toldBy_cons hevents, happly]
    exact hlater.data_events
  · rw [hwords, toldBy_cons hevents, happly, hlater.control_events, hcontrol]
    simp [writesControl]
  · rw [run_cons, toldBy_cons hevents, happly, hlater.events, hwhole]
    simp

/-- After any accesses the state is made up of the two sides, each after its own words. -/
theorem joined_run (hinit : whole.isInitialized = true) (hjoined : Joined data control whole)
    (hports : ∀ operation ∈ operations, operation.onPorts = true) :
    Interleaved data control whole operations := by
  induction operations generalizing data control whole with
  | nil =>
      refine ⟨hjoined, ?_, ?_, ?_⟩
      · simp [takeStream, dataWords, toldBy]
      · simp [writeControls, controlWords, toldBy]
      · simp [toldBy]
  | cons operation operations ih =>
      have hfirst := hports operation List.mem_cons_self
      have hlater : ∀ operation ∈ operations, operation.onPorts = true :=
        fun operation hmem => hports operation (List.mem_cons_of_mem _ hmem)
      cases operation with
      | writeData chunk =>
          have hchunk : chunk ≠ [] := by
            rintro rfl
            contradiction
          refine .writeData hchunk hinit hjoined fun hafter => ih ?_ hafter hlater
          rw [takeChunk_isInitialized, hinit]
      | writeControl word =>
          refine .writeControl hfirst hjoined fun hafter => ih ?_ hafter hlater
          rw [isInitialized, (controlFrame_writeControl whole word).vram]
          exact hinit
      | _ => contradiction

/-- The two ports do not disturb each other.  Whatever data words and whatever display words are
written, any two ways of interleaving them, and of cutting the data words into chunks, end in the
same state, and each port tells the renderer the same in both.  What the two ports tell is all that
the log goes on with. -/
theorem run_interleaved {gpu : Gpu} {left right : List Operation}
    (hinit : gpu.isInitialized = true)
    (hleft : ∀ operation ∈ left, operation.onPorts = true)
    (hright : ∀ operation ∈ right, operation.onPorts = true)
    (hdata : dataWords left = dataWords right)
    (hcontrol : controlWords left = controlWords right) :
    (gpu.run left).clearEvents = (gpu.run right).clearEvents ∧
      gpu.toldBy writesWords left = gpu.toldBy writesWords right ∧
      gpu.toldBy writesControl left =
        gpu.toldBy writesControl right ∧
      ∀ operations ∈ [left, right], (gpu.run operations).events.toList =
        gpu.events.toList ++ gpu.toldBy (fun _ => true) operations := by
  have hl := joined_run hinit (.refl gpu) hleft
  have hr := joined_run hinit (.refl gpu) hright
  refine ⟨?state, ?data, ?control, ?log⟩
  case state =>
      have hjoined := hl.joined
      rw [hdata, hcontrol] at hjoined
      exact hjoined.unique hr.joined
  case data =>
      have hevents := hl.data_events
      rw [hdata, hr.data_events] at hevents
      exact (List.append_cancel_left hevents).symm
  case control =>
      have hevents := hl.control_events
      rw [hcontrol, hr.control_events] at hevents
      exact (List.append_cancel_left hevents).symm
  case log =>
      intro operations hmem
      rw [List.mem_cons, List.mem_singleton] at hmem
      rcases hmem with rfl | rfl
      · exact hl.events
      · exact hr.events

/-- An image of two pixels that is written in one piece before the display is set, or word by word
with display words in between. -/
theorem run_interleaved_upload :
    let gpu := (create {} (.create {} 1000000)).powerOn
    let left : List Operation :=
      [.writeData [0xA0000000, 0, 0x00010002, 0x7FFF001F, 0xE1000400], .writeControl 0x08000009,
        .writeControl 0x05000410, .writeControl 0x03000000]
    let right : List Operation :=
      [.writeData [0xA0000000], .writeControl 0x08000009, .writeData [0, 0x00010002],
        .writeControl 0x05000410, .writeData [0x7FFF001F], .writeControl 0x03000000,
        .writeData [0xE1000400]]
    gpu.isInitialized = true ∧ (∀ operation ∈ left, operation.onPorts = true) ∧
      (∀ operation ∈ right, operation.onPorts = true) ∧ dataWords left = dataWords right ∧
      controlWords left = controlWords right ∧
      (gpu.run left).clearEvents = (gpu.run right).clearEvents ∧
      gpu.toldBy writesWords left = gpu.toldBy writesWords right ∧
      gpu.toldBy writesControl left = gpu.toldBy writesControl right := by
  intro gpu left right
  have hinit : gpu.isInitialized = true := powerOn_isInitialized _
  have hleft : ∀ operation ∈ left, operation.onPorts = true := by decide
  have hright : ∀ operation ∈ right, operation.onPorts = true := by decide
  obtain ⟨hstate, hdata, hcontrol, _⟩ := run_interleaved hinit hleft hright rfl rfl
  exact ⟨hinit, hleft, hright, rfl, rfl, hstate, hdata, hcontrol⟩

end Gpu

end GpuCore
