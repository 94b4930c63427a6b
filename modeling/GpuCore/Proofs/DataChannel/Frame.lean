import GpuCore.Gpu.Chain
import GpuCore.Proofs.Status.Bits
import GpuCore.Proofs.Vram.Image

/-!
# What the data channel leaves alone

Commands on the data channel draw, move pixels and set the drawing environment.  The display mode
and its geometry, the control slots, the pacer and most of the status word are out of their
reach.

Main definitions:

- `Display.withoutDrawing`: the display apart from the drawing environment that it carries.
- `Gpu.DataFrame`: two states that agree on all that the data channel cannot reach.

Main results:

- `Gpu.dataFrame_receive`: one word stays within the frame.
- `Gpu.dataFrame_takeChunk`, `Gpu.dataFrame_walkChain`: so do chunks and chains, which also change
  the two bits that a waiting program polls.
-/

namespace GpuCore

/-! ## The frame -/

/-- The display without the drawing environment that both generations carry. -/
def Display.withoutDrawing (display : Display) : Display :=
  { display with
    current := { display.current with drawOffset := {}, drawArea := {} }
    previous := { display.previous with drawOffset := {}, drawArea := {} } }

@[simp]
theorem Display.withoutDrawing_setAreaTopLeft (display : Display) (x y : Nat) :
    (display.setAreaTopLeft x y).withoutDrawing = display.withoutDrawing :=
  rfl

@[simp]
theorem Display.withoutDrawing_setAreaBottomRight (display : Display) (x y : Nat) :
    (display.setAreaBottomRight x y).withoutDrawing = display.withoutDrawing :=
  rfl

@[simp]
theorem Display.withoutDrawing_setDrawOffset (display : Display) (offset : Point) :
    (display.setDrawOffset offset).withoutDrawing = display.withoutDrawing :=
  rfl

/-- The status bits that commands on the data channel change. -/
def Status.Mask.drawing : UInt32 :=
  texturePage ||| dither ||| drawingAllowed ||| maskDrawn ||| maskEnabled ||| readyForPixels

/-- The status bits that writing to the data channel changes. -/
def Status.Mask.port : UInt32 :=
  drawing ||| available

namespace Gpu

/-- `after` differs from `before` only in pixels, packets, transfers, latches, the drawing
environment, events, the pretended busy reads and the status bits of `changed`. -/
structure DataFrame (changed : UInt32) (before after : Gpu) : Prop where
  settings : after.settings = before.settings
  shape : before.vram.SameShape after.vram
  control : after.control = before.control
  dataWord : after.dataWord = before.dataWord
  pacer : after.pacer = before.pacer
  skipping : after.skipping = before.skipping
  statusReads : after.statusReads = before.statusReads
  saveSlot : after.saveSlot = before.saveSlot
  display : after.display.withoutDrawing = before.display.withoutDrawing
  status : ∀ mask, mask &&& changed = 0 → after.status.bits mask = before.status.bits mask

namespace DataFrame

variable {changed : UInt32} {first second third : Gpu}

theorem refl (changed : UInt32) (gpu : Gpu) : DataFrame changed gpu gpu :=
  ⟨rfl, .refl _, rfl, rfl, rfl, rfl, rfl, rfl, rfl, fun _ _ => rfl⟩

/-- The frame of one piece of work and then another, within the same group of bits. -/
theorem trans (h : DataFrame changed first second) (h' : DataFrame changed second third) :
    DataFrame changed first third where
  settings := h'.settings.trans h.settings
  shape := h.shape.trans h'.shape
  control := h'.control.trans h.control
  dataWord := h'.dataWord.trans h.dataWord
  pacer := h'.pacer.trans h.pacer
  skipping := h'.skipping.trans h.skipping
  statusReads := h'.statusReads.trans h.statusReads
  saveSlot := h'.saveSlot.trans h.saveSlot
  display := h'.display.trans h.display
  status mask hmask := (h'.status mask hmask).trans (h.status mask hmask)

/-- A change within a group is a change within any group around it. -/
theorem weaken {wider : UInt32} (h : DataFrame changed first second)
    (hwider : ∀ mask, mask &&& wider = 0 → mask &&& changed = 0) :
    DataFrame wider first second :=
  { h with status := fun mask hmask => h.status mask (hwider mask hmask) }

/-- What the renderer is told is outside of the frame. -/
theorem emit (h : DataFrame changed first second) (event : Event) :
    DataFrame changed first (second.emit event) :=
  { h with }

/-- Bits of the group may change. -/
theorem withStatus (h : DataFrame changed first second) {status : Status}
    (hstatus : ∀ mask, mask &&& changed = 0 → status.bits mask = second.status.bits mask) :
    DataFrame changed first { second with status := status } :=
  { h with status := fun mask hmask => (hstatus mask hmask).trans (h.status mask hmask) }

/-- Pixels may change, but not the size of the image. -/
theorem withVram (h : DataFrame changed first second) {vram : Vram.Memory}
    (hvram : second.vram.SameShape vram) :
    DataFrame changed first { second with vram := vram } :=
  { h with shape := h.shape.trans hvram }

/-- Latches may change, and in the display what belongs to the drawing environment. -/
theorem withEnvironment (h : DataFrame changed first second) {latches : Latches}
    {display : Display}
    (hdisplay : display.withoutDrawing = second.display.withoutDrawing) :
    DataFrame changed first { second with latches := latches, display := display } :=
  { h with display := hdisplay.trans h.display }

end DataFrame

/-! ## Packets -/

/-- The three groups that commands on the data channel write. -/
theorem drawing_groups {mask : UInt32} (hmask : mask &&& Status.Mask.drawing = 0) :
    mask &&& (Status.Mask.texturePage ||| Status.Mask.dither ||| Status.Mask.drawingAllowed) = 0 ∧
      mask &&& (Status.Mask.maskDrawn ||| Status.Mask.maskEnabled) = 0 ∧
      mask &&& Status.Mask.readyForPixels = 0 := by
  simp only [Status.Mask.drawing, Status.and_or_eq_zero_iff] at hmask ⊢
  simp only [hmask, and_self]

/-- The drawing environment and the bits that show it stay within the frame. -/
theorem dataFrame_setEnvironment (gpu : Gpu) (index : Nat) (word : UInt32) :
    DataFrame Status.Mask.drawing gpu (gpu.setEnvironment index word) := by
  have hrefl := DataFrame.refl Status.Mask.drawing gpu
  unfold setEnvironment
  split
  case h_1 =>
      have hbits := hrefl.withStatus fun mask hmask =>
        Status.bits_replace_of_disjoint gpu.status word (drawing_groups hmask).1
      exact { hbits with }
  case h_2 => exact { hrefl with }
  case h_3 =>
      exact (hrefl.withEnvironment (Display.withoutDrawing_setAreaTopLeft _ _ _)).emit _
  case h_4 =>
      exact (hrefl.withEnvironment (Display.withoutDrawing_setAreaBottomRight _ _ _)).emit _
  case h_5 =>
      exact (hrefl.withEnvironment (Display.withoutDrawing_setDrawOffset _ _)).emit _
  case h_6 =>
      refine DataFrame.emit (DataFrame.withStatus hrefl fun mask hmask => ?_) _
      exact Status.bits_replace_of_disjoint gpu.status _ (drawing_groups hmask).2.1
  case h_7 => exact hrefl

/-- A primitive changes the log at most. -/
theorem dataFrame_drawPrimitive (gpu : Gpu) (event? : Option Event) :
    DataFrame Status.Mask.drawing gpu (gpu.drawPrimitive event?) := by
  have hrefl := DataFrame.refl Status.Mask.drawing gpu
  unfold drawPrimitive
  split
  · exact hrefl
  · cases event? with
    | none => exact hrefl
    | some event => exact hrefl.emit event

/-- What a packet asks for stays within the frame: fills, primitives, moves, transfers and the
drawing environment. -/
theorem dataFrame_perform (gpu : Gpu) (family : Family) (words : List UInt32) :
    DataFrame Status.Mask.drawing gpu (gpu.perform family words) := by
  have hrefl := DataFrame.refl Status.Mask.drawing gpu
  unfold perform
  split
  case h_1 => exact (hrefl.withVram (Vram.Memory.sameShape_fillArea _ _ _)).emit _
  case h_2 => exact dataFrame_drawPrimitive gpu _
  case h_3 => exact dataFrame_drawPrimitive gpu _
  case h_4 => exact dataFrame_drawPrimitive gpu _
  case h_5 =>
      unfold moveImage
      dsimp only
      split
      · exact hrefl
      · exact (hrefl.withVram (Vram.Memory.sameShape_writeArea _ _ _)).emit _
  case h_6 => exact { hrefl with }
  case h_7 =>
      exact { hrefl with
        status := fun mask hmask =>
          Status.bits_set_of_disjoint gpu.status (drawing_groups hmask).2.2 }
  case h_8 => exact dataFrame_setEnvironment gpu _ _
  case h_9 => exact hrefl

/-- A packet as a whole stays within the frame, and may pretend to be busy afterwards. -/
theorem dataFrame_execute (gpu : Gpu) (packet : Packet) :
    DataFrame Status.Mask.drawing gpu (gpu.execute packet) := by
  have hperform := dataFrame_perform gpu (Family.ofOpcode packet.opcode) packet.words
  unfold execute
  dsimp only
  split
  · exact hperform.withStatus fun _ _ => rfl
  · exact hperform

/-! ## Words -/

/-- A command word changes the packet in progress, or executes it. -/
theorem dataFrame_interpret (gpu : Gpu) (word : UInt32) :
    DataFrame Status.Mask.drawing gpu (gpu.interpret word) := by
  have hrefl := DataFrame.refl Status.Mask.drawing gpu
  unfold interpret
  split
  · exact { hrefl with }
  · next packet assembler _ =>
      have hpushed : DataFrame Status.Mask.drawing gpu { gpu with assembler := assembler } :=
        { hrefl with }
      exact hpushed.trans (dataFrame_execute _ packet)

/-- A word of pixels stays within the frame, also at the end of the upload. -/
theorem dataFrame_storePixels (gpu : Gpu) (job : Vram.Job) (word : UInt32) :
    DataFrame Status.Mask.drawing gpu (gpu.storePixels job word) := by
  have hstored := (DataFrame.refl Status.Mask.drawing gpu).withVram
    (Vram.Memory.sameShape_store job gpu.vram word)
  unfold storePixels
  split
  · exact { hstored with }
  · exact { hstored with }

/-- One word on the data channel stays within the frame. -/
theorem dataFrame_receive (gpu : Gpu) (word : UInt32) :
    DataFrame Status.Mask.drawing gpu (gpu.receive word) := by
  unfold receive
  split
  · split
    · exact dataFrame_storePixels gpu _ word
    · have hdropped : DataFrame Status.Mask.drawing gpu { gpu with upload := {} } :=
        { DataFrame.refl Status.Mask.drawing gpu with }
      exact hdropped.trans (dataFrame_interpret _ word)
  · exact dataFrame_interpret gpu word

/-- Words that come one after the other stay within the frame. -/
theorem dataFrame_receiveAll (gpu : Gpu) (words : List UInt32) :
    DataFrame Status.Mask.drawing gpu (gpu.receiveAll words) := by
  induction words generalizing gpu with
  | nil => exact .refl _ gpu
  | cons word words ih => exact (dataFrame_receive gpu word).trans (ih (gpu.receive word))

/-! ## Chunks and chains -/

/-- Work that stays within a frame around the busy bits stays within it when it is done while
busy. -/
theorem dataFrame_whileBusy {changed busy : UInt32} {work : Gpu → Gpu} (gpu : Gpu)
    (hbusy : ∀ mask, mask &&& changed = 0 → mask &&& busy = 0)
    (hwork : ∀ gpu, DataFrame changed gpu (work gpu)) :
    DataFrame changed gpu (gpu.whileBusy busy work) := by
  have hbegun : DataFrame changed gpu { gpu with status := gpu.status.unset busy } :=
    (DataFrame.refl changed gpu).withStatus fun mask hmask =>
      Status.bits_unset_of_disjoint gpu.status (hbusy mask hmask)
  refine DataFrame.withStatus (hbegun.trans (hwork _)) fun mask hmask => ?_
  exact Status.bits_set_of_disjoint _ (hbusy mask hmask)

/-- Taking a chunk stays within the frame that has the polled bits in it. -/
theorem dataFrame_takeChunk (gpu : Gpu) (words : List UInt32) :
    DataFrame Status.Mask.port gpu (gpu.takeChunk words) := by
  refine dataFrame_whileBusy gpu (fun mask hmask => ?_) fun gpu => ?_
  · exact (Status.and_or_eq_zero_iff.1 hmask).2
  · refine (dataFrame_receiveAll gpu words).weaken fun mask hmask => ?_
    exact (Status.and_or_eq_zero_iff.1 hmask).1

/-- A block of a chain is a chunk, or nothing when it is empty. -/
theorem dataFrame_takeBlock (gpu : Gpu) (words : List UInt32) :
    DataFrame Status.Mask.port gpu (gpu.takeBlock words) := by
  unfold takeBlock
  split
  · exact .refl _ gpu
  · exact dataFrame_takeChunk gpu words

/-- A walk keeps what the loop detector and the blocks keep. -/
theorem walkChain_preserves {P : Gpu → Prop}
    (hvisit : ∀ gpu address, P gpu → P { gpu with vram := (gpu.vram.visit address).2 })
    (hblock : ∀ gpu words, P gpu → P (gpu.takeBlock words))
    (memory : Array UInt32) (limit : Nat) (address : UInt32) (gpu : Gpu) (hgpu : P gpu) :
    P (walkChain memory limit address gpu) := by
  induction limit generalizing address gpu with
  | zero => exact hgpu
  | succ limit ih =>
      have hvisited := hvisit gpu (gpu.chainAddress address) hgpu
      simp only [walkChain]
      split
      · exact hvisited
      · split
        · exact hvisited
        · next header words _ =>
            have htaken := hblock _ words hvisited
            split
            · exact htaken
            · exact ih _ _ htaken

/-- Walking a chain stays within the same frame. -/
theorem dataFrame_walkChain (memory : Array UInt32) (limit : Nat) (address : UInt32) (gpu : Gpu) :
    DataFrame Status.Mask.port gpu (walkChain memory limit address gpu) := by
  refine walkChain_preserves (fun gpu' address hframe => ?_) (fun gpu' words hframe => ?_)
    memory limit address gpu (.refl _ gpu)
  · exact hframe.withVram (Vram.Memory.sameShape_visit gpu'.vram address)
  · exact hframe.trans (dataFrame_takeBlock gpu' words)

/-- Following a chain stays within the frame, with the idle bit off meanwhile. -/
theorem dataFrame_followChain (gpu : Gpu) (memory : Array UInt32) (address : UInt32) :
    DataFrame Status.Mask.port gpu (gpu.followChain memory address).2 := by
  unfold followChain ifInitialized
  split
  · dsimp only
    refine dataFrame_whileBusy gpu (fun mask hmask => ?_) fun gpu => ?_
    · have hpolled := (Status.and_or_eq_zero_iff.1 hmask).2
      exact (Status.and_or_eq_zero_iff.1 hpolled).1
    · have hforgotten : DataFrame Status.Mask.port gpu
          { gpu with vram := gpu.vram.forgetHistory } :=
        (DataFrame.refl Status.Mask.port gpu).withVram ⟨rfl, rfl⟩
      exact hforgotten.trans (dataFrame_walkChain memory _ address _)
  · exact .refl _ gpu

/-- Writing to the data channel stays within the frame, and a refused write changes nothing. -/
theorem dataFrame_writeData (gpu : Gpu) (words : List UInt32) :
    DataFrame Status.Mask.port gpu (gpu.writeData words).2 := by
  unfold writeData ifInitialized
  split
  · exact dataFrame_takeChunk gpu words
  · exact .refl _ gpu

end Gpu

end GpuCore
