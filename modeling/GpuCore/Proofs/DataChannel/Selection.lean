import GpuCore.Proofs.Ports.Interleaving

/-!
# Selecting a direction

The direction of the data channel is all that control words other than a reset and a drop set of a
transfer.  They leave its job alone, so that a transfer can be suspended and taken up again, and
neither touch the packet in progress nor report an image.

Main definitions:

- `Gpu.keepsTransfers`: control words that neither reset nor drop.
- `Gpu.selects`: whether a direction is selected after control words.
- `Gpu.SelectionFrame`: what control words may change of a transfer.

Main results:

- `Gpu.selectionFrame_writeControl` and `Gpu.selectionFrame_writeControls`: one control word and any
  number of them.
-/

namespace GpuCore.Gpu

/-! ## Selection -/

/-- A control word that neither resets nor drops. -/
def keepsTransfers (word : UInt32) : Bool :=
  1 < Word.field word 24 8

/-- Whether a direction is selected after a control word, when it was or was not in front of it. -/
def selectsNext (direction : UInt32) (selected : Bool) (word : UInt32) : Bool :=
  if Word.field word 24 8 = 4 then word &&& 3 == direction else selected

/-- Whether a direction is selected after control words: the last selection counts. -/
def selects (direction : UInt32) (selected : Bool) (words : List UInt32) : Bool :=
  words.foldl (selectsNext direction) selected

/-- The images that the renderer was told of. -/
def uploads (gpu : Gpu) : List Event :=
  gpu.events.toList.filter Event.isUpload

/-! ## The frame -/

/-- `after` has the pixels, the packet, the reported images and the jobs of `before`, and the
directions that `words` select. -/
structure SelectionFrame (words : List UInt32) (before after : Gpu) : Prop where
  vram : after.vram = before.vram
  assembler : after.assembler = before.assembler
  uploads : after.uploads = before.uploads
  upload : after.upload =
    { before.upload with streaming := selects 2 before.upload.streaming words }
  download : after.download =
    { before.download with streaming := selects 3 before.download.streaming words }

theorem SelectionFrame.refl (gpu : Gpu) : SelectionFrame [] gpu gpu :=
  ⟨rfl, rfl, rfl, rfl, rfl⟩

theorem SelectionFrame.append {words words' : List UInt32} {first second third : Gpu}
    (h : SelectionFrame words first second) (h' : SelectionFrame words' second third) :
    SelectionFrame (words ++ words') first third where
  vram := h'.vram.trans h.vram
  assembler := h'.assembler.trans h.assembler
  uploads := h'.uploads.trans h.uploads
  upload := by
    rw [h'.upload, h.upload]
    simp only [selects, List.foldl_append]
  download := by
    rw [h'.download, h.download]
    simp only [selects, List.foldl_append]

/-- A word that selects no direction may leave both transfers alone. -/
theorem SelectionFrame.of_ne {word : UInt32} (gpu : Gpu) (hword : Word.field word 24 8 ≠ 4) :
    SelectionFrame [word] gpu gpu := by
  have hselected (direction : UInt32) (selected : Bool) :
      selects direction selected [word] = selected := if_neg hword
  refine ⟨rfl, rfl, rfl, ?_, ?_⟩
  · rw [hselected]
  · rw [hselected]

theorem SelectionFrame.withDisplay {words : List UInt32} {before after : Gpu}
    (h : SelectionFrame words before after) (display : Display) :
    SelectionFrame words before { after with display := display } :=
  { h with }

/-- Control words initialize nothing. -/
theorem SelectionFrame.isInitialized {words : List UInt32} {before after : Gpu}
    (h : SelectionFrame words before after) : after.isInitialized = before.isInitialized := by
  rw [Gpu.isInitialized, h.vram]
  rfl

/-- What the renderer is told of the display reports no image. -/
theorem SelectionFrame.emitMoved {words : List UInt32} {before after : Gpu}
    (h : SelectionFrame words before after) (moved : Bool) :
    SelectionFrame words before (after.emitMoved moved) := by
  unfold Gpu.emitMoved
  split
  · refine { h with uploads := ?_ }
    rw [← h.uploads]
    simp [Gpu.uploads, emit, Event.isUpload]
  · exact h

/-! ## Control words -/

theorem selectionFrame_obey (gpu : Gpu) {word : UInt32} (hkeeps : keepsTransfers word = true) :
    SelectionFrame [word] gpu (gpu.obey word) := by
  have hcommand : 1 < Word.field word 24 8 := of_decide_eq_true hkeeps
  have hother (hword : Word.field word 24 8 ≠ 4) : SelectionFrame [word] gpu gpu :=
    .of_ne gpu hword
  refine obey_cases gpu word ?reset ?drop ?acknowledge ?enable ?direct ?position ?columns ?lines
    ?mode ?query ?ignore <;> intro hword
  case reset => omega
  case drop => omega
  case acknowledge => exact { hother (by omega) with }
  case enable => exact { hother (by omega) with }
  case direct =>
      have hselected (direction : UInt32) (selected : Bool) :
          selects direction selected [word] = (word &&& 3 == direction) := if_pos hword
      refine ⟨rfl, rfl, rfl, ?_, ?_⟩
      · rw [hselected]
        rfl
      · rw [hselected]
        rfl
  case position => exact ((hother (by omega)).withDisplay _).emitMoved _
  case columns => exact ((hother (by omega)).withDisplay _).emitMoved _
  case lines => exact ((hother (by omega)).withDisplay _).emitMoved _
  case mode =>
      have hsame := hother (by omega)
      unfold setDisplayMode
      dsimp only
      split <;> exact { hsame with }
  case query => exact { hother (by omega) with }
  case ignore => exact hother (by omega)

/-- A control word that neither resets nor drops sets at most the directions. -/
theorem selectionFrame_writeControl (gpu : Gpu) {word : UInt32}
    (hkeeps : keepsTransfers word = true) : SelectionFrame [word] gpu (gpu.writeControl word) := by
  have hkept : SelectionFrame [] gpu (gpu.keepControl word) := ⟨rfl, rfl, rfl, rfl, rfl⟩
  exact hkept.append (selectionFrame_obey (gpu.keepControl word) hkeeps)

/-- Any number of them set the directions that are selected last. -/
theorem selectionFrame_writeControls (gpu : Gpu) {words : List UInt32}
    (hkeeps : ∀ word ∈ words, keepsTransfers word = true) :
    SelectionFrame words gpu (gpu.writeControls words) := by
  induction words generalizing gpu with
  | nil => exact .refl gpu
  | cons word words ih =>
      have hfirst := selectionFrame_writeControl gpu (hkeeps word List.mem_cons_self)
      have hrest := ih (gpu.writeControl word)
        fun word hmem => hkeeps word (List.mem_cons_of_mem _ hmem)
      exact hfirst.append hrest

end GpuCore.Gpu
