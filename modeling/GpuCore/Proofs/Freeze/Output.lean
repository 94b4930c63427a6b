import GpuCore.Proofs.Control.Slots
import GpuCore.Proofs.Freeze.Replay

/-!
# The output after thawing

The output of the display is not stored in a record.  It is rebuilt from the last mode word and
the last switch, which the control slots keep.  A reset word puts the output back to power-on but
leaves the slots alone, so that thawing brings back the output that there would be without it.

Main definitions:

- `Display.Output.ofSlots`: the output that control slots stand for.
- `Gpu.Rebuildable`: control slots stand for the output of a history without reset words.

Main results:

- `Gpu.output_thaw`: thawing sets the output that the slots of the record stand for.
- `Gpu.Rebuildable.run`: what the slots stand for, after any operations but thawing.
- `Gpu.output_restore_iff`: thawing brings the output back exactly when the reset words of the
  history make no difference to it.
-/

namespace GpuCore

/-! ## What control slots stand for -/

namespace Display.Output

/-- The output that control slots stand for: that of power-on, with the last mode word and the last
switch. -/
def ofSlots (control : Vector UInt32 controlSlots) : Output where
  mode := if Word.field control[8] 24 8 = 8 then .ofWord control[8] else initial.mode
  disabled := if Word.field control[3] 24 8 = 3 then Word.flag control[3] 0 else initial.disabled

@[simp]
theorem ofSlots_replicate : ofSlots (Vector.replicate controlSlots 0) = initial := by
  simp only [ofSlots, Vector.getElem_replicate]
  rfl

/-- Keeping a reset word makes no difference. -/
theorem ofSlots_set_of_reset (control : Vector UInt32 controlSlots) {word : UInt32}
    (hslot : (Word.command word).toNat < controlSlots) (hreset : Word.field word 24 8 = 0) :
    ofSlots (control.set (Word.command word).toNat word hslot) = ofSlots control := by
  have hcommand : (Word.command word).toNat = 0 := by rw [Word.toNat_command, hreset]
  simp only [ofSlots, Vector.getElem_set, hcommand]
  rfl

/-- Keeping another word acts on the output as the word does. -/
theorem ofSlots_set (control : Vector UInt32 controlSlots) {word : UInt32}
    (hslot : (Word.command word).toNat < controlSlots) (hreset : Word.field word 24 8 ≠ 0) :
    ofSlots (control.set (Word.command word).toNat word hslot) = (ofSlots control).obey word := by
  simp only [ofSlots, Vector.getElem_set, Word.toNat_command]
  by_cases henable : Word.field word 24 8 = 3
  · rw [obey_of_enable _ henable]
    simp [henable]
  · by_cases hmode : Word.field word 24 8 = 8
    · rw [obey_of_mode _ hmode]
      simp [hmode]
    · rw [obey_of_other _ hreset henable hmode]
      simp [henable, hmode]

end Display.Output

namespace Gpu

/-! ## The replay -/

@[simp]
theorem output_writeControl (gpu : Gpu) (word : UInt32) :
    (gpu.writeControl word).display.output = gpu.display.output.obey word :=
  output_obey (gpu.keepControl word) word

/-- What replaying a slot does to the output. -/
def replayOutput (control : Vector UInt32 controlSlots) (output : Display.Output)
    (slot : Fin controlSlots) : Display.Output :=
  if isReplayed slot (control.get slot) then output.obey (control.get slot) else output

/-- What a slot does to the output of a display in its replay follows from the output alone. -/
theorem output_replaySlot (control : Vector UInt32 controlSlots) (gpu : Gpu)
    (slot : Fin controlSlots) :
    (replaySlot control gpu slot).display.output =
      replayOutput control gpu.display.output slot := by
  unfold replaySlot replayOutput
  dsimp only
  split
  · exact output_writeControl gpu _
  · rfl

/-- Replaying slots acts on the display as it acts on its output. -/
theorem output_replay (control : Vector UInt32 controlSlots) (gpu : Gpu)
    (slots : List (Fin controlSlots)) :
    (slots.foldl (replaySlot control) gpu).display.output =
      slots.foldl (replayOutput control) gpu.display.output :=
  (List.foldl_hom (fun gpu : Gpu => gpu.display.output) fun gpu slot =>
    (output_replaySlot control gpu slot).symm).symm

/-- A slot other than that of resets is obeyed when it holds a word of its own opcode. -/
theorem replayOutput_of_ne_zero (control : Vector UInt32 controlSlots) (output : Display.Output)
    {slot : Fin controlSlots} (hslot : slot.val ≠ 0) :
    replayOutput control output slot =
      if Word.field control[slot.val] 24 8 = slot.val then output.obey control[slot.val]
      else output := by
  have hiff : isReplayed slot control[slot.val] = true ↔
      Word.field control[slot.val] 24 8 = slot.val := by
    rw [← Word.toNat_command]
    simp [isReplayed, hslot]
  unfold replayOutput
  exact ite_congr (propext hiff) (fun _ => rfl) fun _ => rfl

/-- The slot of the switch sets it, if there is a word for the switch in it. -/
theorem replayOutput_enable (control : Vector UInt32 controlSlots) (output : Display.Output) :
    replayOutput control output 3 = { output with
      disabled := if Word.field control[3] 24 8 = 3 then Word.flag control[3] 0
        else output.disabled } := by
  rw [replayOutput_of_ne_zero control output (by decide)]
  by_cases henable : Word.field control[3] 24 8 = 3
  · rw [if_pos henable]
    exact (if_pos henable).trans (Display.Output.obey_of_enable output henable)
  · rw [if_neg henable]
    exact if_neg henable

/-- The slot of the mode sets the mode, if there is a mode word in it. -/
theorem replayOutput_mode (control : Vector UInt32 controlSlots) (output : Display.Output) :
    replayOutput control output 8 = { output with
      mode := if Word.field control[8] 24 8 = 8 then .ofWord control[8] else output.mode } := by
  rw [replayOutput_of_ne_zero control output (by decide)]
  by_cases hmode : Word.field control[8] 24 8 = 8
  · rw [if_pos hmode]
    exact (if_pos hmode).trans (Display.Output.obey_of_mode output hmode)
  · rw [if_neg hmode]
    exact if_neg hmode

/-- The other slots do not touch the output. -/
theorem replayOutput_of_other (control : Vector UInt32 controlSlots) (output : Display.Output)
    {slot : Fin controlSlots} (hreset : slot.val ≠ 0) (henable : slot.val ≠ 3)
    (hmode : slot.val ≠ 8) : replayOutput control output slot = output := by
  rw [replayOutput_of_ne_zero control output hreset]
  split
  · next hown =>
      exact Display.Output.obey_of_other output (by omega) (by omega) (by omega)
  · rfl

/-- The replay of all nine slots, the first of which holds a reset word. -/
theorem foldl_replayOutput {control : Vector UInt32 controlSlots} (output : Display.Output)
    (hreset : Word.field control[0] 24 8 = 0) :
    replayOrder.foldl (replayOutput control) output = .ofSlots control := by
  have hzero : replayOutput control output 0 = .initial := Display.Output.obey_of_reset _ hreset
  simp (disch := decide) only [replayOrder, List.foldl_cons, List.foldl_nil, hzero,
    replayOutput_of_other, replayOutput_enable, replayOutput_mode]
  rfl

@[simp]
theorem output_applyMode (gpu : Gpu) : gpu.applyMode.display.output = gpu.display.output :=
  (periodFrame_applyMode gpu).output

/-- Thawing sets the output that the slots of the record stand for, whatever it was before. -/
theorem output_thaw (gpu : Gpu) {record : Freeze.Record}
    (hreset : Word.field record.control[0] 24 8 = 0) :
    (gpu.thaw record).display.output = .ofSlots record.control := by
  unfold thaw setRegisters
  dsimp only
  rw [output_applyMode, output_replay, foldl_replayOutput _ hreset]

/-! ## Histories -/

/-- Control words do not reach video memory. -/
theorem vram_run_control (gpu : Gpu) (words : List UInt32) :
    (gpu.run (words.map .writeControl)).vram = gpu.vram := by
  induction words generalizing gpu with
  | nil => rfl
  | cons word words ih =>
      rw [List.map_cons, run_cons, ih]
      exact vram_writeControl gpu word

/-- Control words act on the output one after another. -/
theorem output_run_control (gpu : Gpu) (words : List UInt32) :
    (gpu.run (words.map .writeControl)).display.output =
      words.foldl Display.Output.obey gpu.display.output := by
  induction words generalizing gpu with
  | nil => rfl
  | cons word words ih =>
      rw [List.map_cons, run_cons, ih]
      exact congrArg (words.foldl Display.Output.obey) (output_writeControl gpu word)

end Gpu

/-- Whether an operation writes a reset word. -/
def Operation.isResetWord : Operation → Bool
  | writeControl word => Word.field word 24 8 == 0
  | _ => false

namespace Gpu

/-- The control slots of `gpu` stand for the output of `plain`, and its status register shows its
own output. -/
structure Rebuildable (gpu plain : Gpu) : Prop where
  shown : gpu.status.shown = gpu.display.output
  slots : OwnSlots gpu.control
  rebuilt : .ofSlots gpu.control = plain.display.output

/-- A processor that is created is rebuilt from its empty slots. -/
theorem Rebuildable.create (settings : Settings) (pacer : Pacing.Pacer) :
    Rebuildable (create settings pacer) (create settings pacer) where
  shown := Status.shown_powerOn
  slots := ownSlots_replicate
  rebuilt := Display.Output.ofSlots_replicate

/-- A reset by the host clears the control slots. -/
theorem Rebuildable.reset (gpu plain : Gpu) : Rebuildable gpu.reset plain.reset where
  shown := Status.shown_powerOn
  slots := ownSlots_replicate
  rebuilt := Display.Output.ofSlots_replicate

variable {gpu plain : Gpu}

/-- A reset word is kept in a slot that stands for nothing. -/
theorem Rebuildable.writeControl_of_reset (h : Rebuildable gpu plain) {word : UInt32}
    (hreset : Word.field word 24 8 = 0) : Rebuildable (gpu.writeControl word) plain where
  shown := shown_obey word h.shown
  slots := ownSlots_writeControl h.slots word
  rebuilt := by
    rw [control_writeControl, Display.Output.ofSlots_set_of_reset _ _ hreset, h.rebuilt]

/-- A control word that is no reset takes both on in the same way. -/
theorem Rebuildable.writeControl (h : Rebuildable gpu plain) {word : UInt32}
    (hreset : Word.field word 24 8 ≠ 0) :
    Rebuildable (gpu.writeControl word) (plain.writeControl word) where
  shown := shown_obey word h.shown
  slots := ownSlots_writeControl h.slots word
  rebuilt := by
    rw [control_writeControl, Display.Output.ofSlots_set _ _ hreset, h.rebuilt,
      output_writeControl]

/-- What leaves slots and outputs alone keeps what the slots stand for. -/
theorem Rebuildable.quiet (h : Rebuildable gpu plain) {gpu' plain' : Gpu}
    (hgpu : QuietFrame gpu gpu') (hplain : QuietFrame plain plain') :
    Rebuildable gpu' plain' where
  shown := hgpu.shown.trans (h.shown.trans hgpu.output.symm)
  slots := by
    rw [hgpu.control]
    exact h.slots
  rebuilt := by rw [hgpu.control, h.rebuilt, hplain.output]

theorem Rebuildable.powerOn (gpu plain : Gpu) : Rebuildable gpu.powerOn plain.powerOn :=
  .reset { gpu with vram := .allocate (.ofDoubled gpu.settings.doubledMemory) }
    { plain with vram := .allocate (.ofDoubled plain.settings.doubledMemory) }

/-- One operation, which both processors go through unless it writes a reset word. -/
theorem Rebuildable.apply (h : Rebuildable gpu plain) (operation : Operation)
    (hrestores : operation.restores = false) :
    Rebuildable (gpu.apply operation)
      (if operation.isResetWord then plain else plain.apply operation) := by
  have hquiet (hwrites : operation.writesControl = false) :
      Rebuildable (gpu.apply operation) (plain.apply operation) :=
    h.quiet (quietFrame_apply gpu operation hwrites hrestores)
      (quietFrame_apply plain operation hwrites hrestores)
  cases operation with
  | powerOn => exact .powerOn gpu plain
  | reset => exact .reset gpu plain
  | writeControl word =>
      by_cases hreset : Word.field word 24 8 = 0
      · have hword : (Operation.writeControl word).isResetWord = true := beq_iff_eq.2 hreset
        rw [if_pos hword]
        exact h.writeControl_of_reset hreset
      · have hword : ¬ (Operation.writeControl word).isResetWord = true := mt beq_iff_eq.1 hreset
        rw [if_neg hword]
        exact h.writeControl hreset
  | _ => exact hquiet rfl

/-- Control slots stand for the output of the history without its reset words. -/
theorem Rebuildable.run (h : Rebuildable gpu plain) {operations : List Operation}
    (hlive : ∀ operation ∈ operations, operation.restores = false) :
    Rebuildable (gpu.run operations)
      (plain.run (operations.filter fun operation => !operation.isResetWord)) := by
  induction operations generalizing gpu plain with
  | nil => exact h
  | cons operation operations ih =>
      have hstep := h.apply operation (hlive operation List.mem_cons_self)
      have hrest : ∀ operation ∈ operations, operation.restores = false :=
        fun other hother => hlive other (List.mem_cons_of_mem _ hother)
      rw [run_cons, List.filter_cons]
      cases hword : operation.isResetWord with
      | true =>
          rw [hword] at hstep
          exact ih hstep hrest
      | false =>
          rw [hword] at hstep
          exact ih hstep hrest

/-! ## Thawing in another processor -/

/-- Thawing in another processor of the same size sets the output of the history without its reset
words, and a status register that shows the output that was frozen. -/
theorem restore_rebuilds {source plain target : Gpu} (h : Rebuildable source plain)
    (hsource : source.isInitialized = true) (htarget : target.isInitialized = true)
    (hheight : target.vram.height = source.vram.height) :
    source.snapshot = .ok source.record ∧
      target.restore source.record = (.ok (), target.thaw source.record) ∧
      (target.thaw source.record).display.output = plain.display.output ∧
      (target.thaw source.record).status.shown = source.display.output := by
  have hsize : target.vram.size = source.vram.size := congrArg Vram.Height.pixels hheight
  have hpixels : source.record.pixels.size = target.vram.size := by
    rw [size_record_pixels hsource, hsize]
  refine ⟨if_pos hsource, restore_of_fits htarget rfl hpixels, ?output, ?shown⟩
  case output =>
      rw [output_thaw target h.slots.reset]
      exact h.rebuilt
  case shown =>
      rw [← h.shown]
      exact Status.shown_of_word rfl

/-- Whatever is done to a new processor, reset words included, thawing what was frozen brings the
output of the display back exactly when the reset words of the history make no difference to it,
and only then does the status register show the output of the display. -/
theorem output_restore_iff (settings : Settings) (pacer : Pacing.Pacer)
    (operations : List Operation) (target : Gpu)
    (hlive : ∀ operation ∈ operations, operation.restores = false)
    (hsource : ((create settings pacer).run operations).isInitialized = true)
    (htarget : target.isInitialized = true)
    (hheight : target.vram.height = ((create settings pacer).run operations).vram.height) :
    let source := (create settings pacer).run operations
    let plain := (create settings pacer).run
      (operations.filter fun operation => !operation.isResetWord)
    ∃ record loaded, source.snapshot = .ok record ∧ target.restore record = (.ok (), loaded) ∧
      loaded.display.output = plain.display.output ∧
      (loaded.display.output = source.display.output ↔
        plain.display.output = source.display.output) ∧
      (loaded.display.output = loaded.status.shown ↔
        plain.display.output = source.display.output) := by
  intro source plain
  obtain ⟨hsaved, hrestored, houtput, hshown⟩ :=
    restore_rebuilds ((Rebuildable.create settings pacer).run hlive) hsource htarget hheight
  refine ⟨_, _, hsaved, hrestored, houtput, ?_, ?_⟩
  · rw [houtput]
  · rw [houtput, hshown]

/-- A PAL mode, a reset word and thawing in another processor. -/
theorem output_restore_iff_reset :
    let operations : List Operation := .powerOn :: [0x08000008, 0].map .writeControl
    let source := (create {} (.create {} 1000000)).run operations
    let plain := (create {} (.create {} 1000000)).run
      (operations.filter fun operation => !operation.isResetWord)
    let target := (create {} (.create {} 1000000)).powerOn
    (∀ operation ∈ operations, operation.restores = false) ∧
      source.isInitialized = true ∧ target.isInitialized = true ∧
      target.vram.height = source.vram.height ∧
      ∃ record loaded, source.snapshot = .ok record ∧ target.restore record = (.ok (), loaded) ∧
        loaded.display.output = plain.display.output ∧
        (loaded.display.output = source.display.output ↔
          plain.display.output = source.display.output) ∧
        (loaded.display.output = loaded.status.shown ↔
          plain.display.output = source.display.output) := by
  intro operations source plain target
  have hlive : ∀ operation ∈ operations, operation.restores = false := by decide
  have hvram : source.vram = target.vram := vram_run_control target [0x08000008, 0]
  have htarget : target.isInitialized = true := powerOn_isInitialized _
  have hsource : source.isInitialized = true := by
    rw [isInitialized, hvram]
    exact htarget
  have hheight : target.vram.height = source.vram.height := by rw [hvram]
  exact ⟨hlive, hsource, htarget, hheight,
    output_restore_iff {} (.create {} 1000000) operations target hlive hsource htarget hheight⟩

/-- A reset word after a PAL mode: the picture is an NTSC one when it is frozen, and thawing makes
it a PAL one, while the status register goes on showing NTSC. -/
theorem restore_forgets_reset_word :
    let source := (create {} (.create {} 1000000)).run
      (.powerOn :: [0x08000008, 0].map .writeControl)
    source.isInitialized = true ∧
      ∃ record loaded, source.snapshot = .ok record ∧ source.restore record = (.ok (), loaded) ∧
        source.display.output.mode.region = .ntsc ∧
        loaded.display.output.mode.region = .pal ∧
        loaded.status.shown.mode.region = .ntsc := by
  intro source
  let started := (create {} (.create {} 1000000)).powerOn
  have hsource : source.isInitialized = true := by
    rw [isInitialized, show source.vram = started.vram from vram_run_control started _]
    exact powerOn_isInitialized _
  have hlive : ∀ operation ∈ (.powerOn :: [0x08000008, 0].map .writeControl : List Operation),
      operation.restores = false := by
    decide
  obtain ⟨hsaved, hrestored, houtput, hshown⟩ :=
    restore_rebuilds ((Rebuildable.create {} (.create {} 1000000)).run hlive) hsource hsource rfl
  have hreset : source.display.output = .initial := output_run_control started [0x08000008, 0]
  have hplain : (source.thaw source.record).display.output =
      Display.Output.initial.obey 0x08000008 :=
    houtput.trans (output_run_control started [0x08000008])
  refine ⟨hsource, _, _, hsaved, hrestored, ?_, ?_, ?_⟩
  · rw [hreset]
    rfl
  · rw [hplain]
    rfl
  · rw [hshown, hreset]
    rfl

end Gpu

end GpuCore
