import GpuCore.Proofs.DataChannel.Copy

/-!
# Moving an image at once

A move reads every pixel of its source before it writes the first one, so that source and
destination may overlap.  Both areas fold back into the image at the right and at the lower edge.
This module says so in the coordinates of the image, for the numbers that stand in the words of the
command.

Main definitions:

- `Vram.Memory.MovedAtOnce`: an area shows at another corner what it showed before, and nothing else
  changed.

Main results:

- `Vram.Area.ofTransferWords_eq`: an area in the numbers of its words.
- `Vram.Memory.Placed.movedAtOnce`: from lines and columns of an area to coordinates of the image.
- `Gpu.moveImage_at_once`: what a move does to the image and tells the renderer.
-/

namespace GpuCore

/-! ## The numbers of a command -/

namespace Word

/-- The ten lowest bits of a word, which hold a column. -/
theorem field_column (word : UInt32) : field word 0 10 = word.toNat % 1024 := by
  simp [field]

/-- The upper half of a word, which holds a line. -/
theorem field_line (word : UInt32) : field word 16 16 = word.toNat / 65536 := by
  have hword := word.toNat_lt
  simp only [field, Nat.pow_eq, Nat.reducePow]
  omega

/-- The lower half of a word, which holds a width. -/
theorem field_width (word : UInt32) : field word 0 16 = word.toNat % 65536 := by
  simp [field]

end Word

namespace Vram

/-- An extent is what its field says modulo the limit, and the limit itself where that is zero. -/
theorem extent_eq (raw : Nat) {limit : Nat} (hlimit : 0 < limit) :
    extent raw limit = if raw % limit = 0 then limit else raw % limit := by
  have hrest := Nat.mod_lt raw hlimit
  rw [extent, ← Nat.mod_add_mod]
  split
  · next hzero =>
      rw [hzero, Nat.zero_add, Nat.mod_eq_of_lt (Nat.sub_lt hlimit Nat.one_pos)]
      omega
  · next hpositive =>
      have hover : raw % limit + (limit - 1) = raw % limit - 1 + limit := by omega
      rw [hover, Nat.add_mod_right, Nat.mod_eq_of_lt (by omega)]
      omega

/-- A corner in the numbers of its word. -/
theorem corner_eq_numbers (memory : Memory) (position : UInt32) :
    corner memory position = (position.toNat % 1024, position.toNat / 65536 % memory.lines) := by
  rw [corner, Word.field_column, Word.field_line]

/-- The area of a move in the numbers of its words. -/
theorem Area.ofTransferWords_eq (memory : Memory) (position size : UInt32) :
    ofTransferWords memory position size =
      { x := position.toNat % 1024
        y := position.toNat / 65536 % memory.lines
        width := if size.toNat % 1024 = 0 then 1024 else size.toNat % 1024
        height :=
          if size.toNat / 65536 % memory.lines = 0 then memory.lines
          else size.toNat / 65536 % memory.lines } := by
  have hlines : 0 < memory.lines := memory.height.lines_pos
  have hwidth : 0 < Vram.width := by decide
  have hcolumns : size.toNat % 65536 % Vram.width = size.toNat % 1024 :=
    Nat.mod_mod_of_dvd _ (by decide)
  rw [ofTransferWords, corner_eq_numbers, Word.field_width, Word.field_line, extent_eq _ hlines,
    extent_eq _ hwidth, hcolumns]
  rfl

/-! ## Moved areas -/

namespace Memory

/-- `after` shows at the corner (`x`, `y`) what `before` shows in `source`, both folded back into
the image, and shows what `before` does everywhere else. -/
structure MovedAtOnce (source : Area) (x y : Nat) (before after : Memory) : Prop where
  shape : SameShape before after
  inside : ∀ row < source.height, ∀ column < source.width,
    after.readPixel ((x + column) % width) ((y + row) % before.lines) =
      before.readPixel ((source.x + column) % width) ((source.y + row) % before.lines)
  outside : ∀ column' < width, ∀ row' < before.lines,
    (∀ row < source.height, ∀ column < source.width,
      ¬(column' = (x + column) % width ∧ row' = (y + row) % before.lines)) →
    after.readPixel column' row' = before.readPixel column' row'

/-- Coordinates count modulo the size of the image. -/
theorem readPixel_mod (memory : Memory) (x y : Nat) :
    memory.readPixel (x % width) (y % memory.lines) = memory.readPixel x y := by
  rw [readPixel, readPixel,
    (memory.position_eq_iff _ _ _ _).2 ⟨Nat.mod_mod x width, Nat.mod_mod y memory.lines⟩]

/-- What lies on the lines and columns of an area lies at coordinates of the image. -/
theorem Placed.movedAtOnce {source : Area} {x y : Nat} {before after : Memory}
    (h : Placed (fun _ => 0) { source with x := x, y := y }
      (fun row column => before.readPixel (source.x + column) (source.y + row)) before after) :
    MovedAtOnce source x y before after where
  shape := h.shape
  inside row hrow column hcolumn := by
    have hread : after.readPixel (x + column) (y + row) =
        before.readPixel (source.x + column) (source.y + row) :=
      h.inside row hrow column hcolumn
    rw [readPixel_mod, ← hread, ← h.shape.lines_eq, readPixel_mod]
  outside column' hcolumn' row' hrow' hfree := by
    refine h.outside column' row' fun row hrow column hcolumn hposition => ?_
    obtain ⟨hx, hy⟩ := (before.position_eq_iff _ _ _ _).1 hposition
    rw [Nat.mod_eq_of_lt hcolumn'] at hx
    rw [Nat.mod_eq_of_lt hrow'] at hy
    exact hfree row hrow column hcolumn ⟨hx.symm, hy.symm⟩

end Memory

end Vram

/-! ## The command -/

namespace Gpu

open Vram.Memory (MovedAtOnce)

variable {gpu : Gpu}

/-- A packet that moves an image, whatever else its command word holds. -/
theorem execute_move (gpu : Gpu) (command source destination size : UInt32) :
    gpu.execute ⟨0x80, [command, source, destination, size]⟩ =
      gpu.moveImage source destination size :=
  rfl

/-- An area that is moved to its own corner is not moved. -/
theorem moveImage_of_same {source destination size : UInt32}
    (hsame : Vram.corner gpu.vram source = Vram.corner gpu.vram destination) :
    gpu.moveImage source destination size = gpu := by
  have hx := congrArg Prod.fst hsame
  have hy := congrArg Prod.snd hsame
  exact if_pos ⟨hx, hy⟩

/-- Every other move is reported once, and changes nothing but the image and the log. -/
theorem moveImage_of_ne {source destination : UInt32}
    (hmoves : Vram.corner gpu.vram source ≠ Vram.corner gpu.vram destination) (size : UInt32) :
    let area := Vram.Area.ofTransferWords gpu.vram source size
    let corner := Vram.corner gpu.vram destination
    gpu.moveImage source destination size =
      emit { gpu with vram := gpu.vram.moveArea area corner.1 corner.2 }
        (.copy area corner.1 corner.2) := by
  have hne : ¬((Vram.corner gpu.vram source).1 = (Vram.corner gpu.vram destination).1 ∧
      (Vram.corner gpu.vram source).2 = (Vram.corner gpu.vram destination).2) :=
    fun hsame => hmoves (Prod.ext hsame.1 hsame.2)
  exact if_neg hne

/-- A move to another corner shows there what the source showed, all at once. -/
theorem movedAtOnce_moveImage (hinit : gpu.isInitialized = true)
    (source destination size : UInt32) :
    let corner := Vram.corner gpu.vram destination
    MovedAtOnce (Vram.Area.ofTransferWords gpu.vram source size) corner.1 corner.2 gpu.vram
      (gpu.moveImage source destination size).vram := by
  have hplaced := (stored_moveImage hinit source destination size).placed_copy
    (fun _ => 0) (fun _ hfits row _ => Vram.Memory.gridPosition_line hfits row)
    (Vram.Area.fits_ofTransferWords gpu.vram source size)
    (Vram.Area.fits_ofTransferWords gpu.vram destination size) rfl
  exact Vram.Memory.Placed.movedAtOnce hplaced

/-- The words of a move, written to an idle processor, have the image moved. -/
theorem writeData_move (hinit : gpu.isInitialized = true) (hidle : gpu.assembler.isIdle = true)
    (hstreaming : gpu.upload.streaming = false) {command : UInt32}
    (hcommand : Word.command command = 0x80) (source destination size : UInt32) :
    ∃ received, gpu.writeData [command, source, destination, size] = (.ok (), received) ∧
      received.vram = (gpu.moveImage source destination size).vram ∧
      received.events = (gpu.moveImage source destination size).events := by
  let busy : Gpu := { gpu with status := gpu.status.unset Status.Mask.available }
  have hmoved := takeChunk_of_receiveAll
    (@receiveAll_move busy hidle hstreaming command hcommand source destination size)
  refine ⟨_, writeData_of_isInitialized hinit _, ?_⟩
  rw [hmoved]
  unfold moveImage
  dsimp only
  split
  · exact ⟨rfl, rfl⟩
  · exact ⟨rfl, rfl⟩

/-- A move whose corners differ, in columns or lines of the image, leaves at the destination what
was at the source before, all at once, and nothing else; an extent of zero is that of the whole
image.  The renderer is told once.  If the corners are the same, nothing happens and nothing is
told.  So it is for the words of the command at an idle processor, and for its packet in any
state. -/
theorem moveImage_at_once (gpu : Gpu) (command source destination size : UInt32)
    (hinit : gpu.isInitialized = true) :
    let lines := gpu.vram.lines
    let area : Vram.Area :=
      { x := source.toNat % 1024
        y := source.toNat / 65536 % lines
        width := if size.toNat % 1024 = 0 then 1024 else size.toNat % 1024
        height :=
          if size.toNat / 65536 % lines = 0 then lines else size.toNat / 65536 % lines }
    let x := destination.toNat % 1024
    let y := destination.toNat / 65536 % lines
    let moved := gpu.execute ⟨0x80, [command, source, destination, size]⟩
    (¬(area.x = x ∧ area.y = y) →
      MovedAtOnce area x y gpu.vram moved.vram ∧
        moved = { gpu with vram := moved.vram, events := gpu.events.push (.copy area x y) }) ∧
      (area.x = x ∧ area.y = y → moved = gpu) ∧
      (Word.command command = 0x80 → gpu.assembler.isIdle = true →
        gpu.upload.streaming = false →
        ∃ received, gpu.writeData [command, source, destination, size] = (.ok (), received) ∧
          received.vram = moved.vram ∧ received.events = moved.events) := by
  intro lines area x y moved
  have hmoved : moved = gpu.moveImage source destination size := execute_move gpu _ _ _ _
  have harea : Vram.Area.ofTransferWords gpu.vram source size = area :=
    Vram.Area.ofTransferWords_eq gpu.vram source size
  have hcorner : Vram.corner gpu.vram destination = (x, y) :=
    Vram.corner_eq_numbers gpu.vram destination
  have horigin : Vram.corner gpu.vram source = (area.x, area.y) :=
    Vram.corner_eq_numbers gpu.vram source
  refine ⟨fun hmoves => ⟨?copied, ?told⟩, fun hsame => ?still,
    fun hcommand hidle hstreaming => ?port⟩
  case copied =>
      have hcopied := movedAtOnce_moveImage hinit source destination size
      rw [harea, hcorner, ← hmoved] at hcopied
      exact hcopied
  case told =>
      have hne : Vram.corner gpu.vram source ≠ Vram.corner gpu.vram destination := by
        rw [horigin, hcorner]
        exact fun hsame => hmoves (Prod.mk.inj hsame)
      have htold := moveImage_of_ne hne size
      rw [harea, hcorner, ← hmoved] at htold
      rw [htold]
      rfl
  case still =>
      rw [hmoved, moveImage_of_same]
      rw [horigin, hcorner, hsame.1, hsame.2]
  case port =>
      rw [hmoved]
      exact writeData_move hinit hidle hstreaming hcommand source destination size

/-- The whole height of an image, 64 columns wide, moved by ten columns and ten lines over both
edges. -/
theorem moveImage_at_once_edges :
    let gpu := (create {} (.create {} 1000000)).powerOn
    let area : Vram.Area := ⟨1000, 500, 64, 512⟩
    gpu.isInitialized = true ∧ Word.command 0x80000000 = 0x80 ∧ gpu.assembler.isIdle = true ∧
      gpu.upload.streaming = false ∧
      ∃ received,
        gpu.writeData [0x80000000, 0x01F403E8, 0x01FE03F2, 0x00000040] = (.ok (), received) ∧
        MovedAtOnce area 1010 510 gpu.vram received.vram ∧
        received.events = gpu.events.push (.copy area 1010 510) := by
  intro gpu area
  have hinit : gpu.isInitialized = true := powerOn_isInitialized _
  have hcommand : Word.command 0x80000000 = 0x80 := by decide
  have hlines : gpu.vram.lines = 512 := by decide +kernel
  obtain ⟨hcopied, -, hport⟩ :=
    moveImage_at_once gpu 0x80000000 0x01F403E8 0x01FE03F2 0x00000040 hinit
  rw [hlines] at hcopied
  obtain ⟨received, hwritten, hvram, hevents⟩ := hport hcommand rfl rfl
  obtain ⟨hplaced, hmoved⟩ := hcopied (by decide)
  refine ⟨hinit, hcommand, rfl, rfl, received, hwritten, ?_, ?_⟩
  · rw [hvram]
    exact hplaced
  · rw [hevents, hmoved]
    rfl

end Gpu

end GpuCore
