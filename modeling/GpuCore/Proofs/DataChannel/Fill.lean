import GpuCore.Proofs.DataChannel.Move

/-!
# Filling an area

A fill gives one color to every pixel of an area that folds back into the image at the right and at
the lower edge.  Pixels are written one by one, possibly none, and nothing depends on their order.
This module says so in the coordinates of the image, for the numbers that stand in the words of the
command.

Main results:

- `Vram.Memory.read_fold`: a loop whose rounds give one value to some pixels gives it to the pixels
  of all rounds.
- `Vram.Memory.readPixel_fillArea`: every pixel of the image behind a fill.
- `Vram.Area.ofFillWords_eq` and `Color.toNat_rgb15_ofWord`: area and color in the numbers of their
  words.
- `Gpu.fill_at_once`: what a fill does to the image and tells the renderer.
-/

namespace GpuCore

/-! ## The numbers of a command -/

/-- The area of a fill in the numbers of its words. -/
theorem Vram.Area.ofFillWords_eq (memory : Memory) (position size : UInt32) :
    ofFillWords memory position size =
      { x := position.toNat % 1024 / 16 * 16
        y := position.toNat / 65536 % memory.lines
        width := (size.toNat % 1024 + 15) / 16 * 16
        height := size.toNat / 65536 % 512 } := by
  have hcolumn : Word.field position 4 6 = position.toNat % 1024 / 16 := by
    simp only [Word.field, Nat.pow_eq, Nat.reducePow]
    omega
  have hheight : Word.field size 16 9 = size.toNat / 65536 % 512 := by
    simp only [Word.field, Nat.pow_eq, Nat.reducePow]
  rw [ofFillWords, corner_eq_numbers, Word.field_column, hcolumn, hheight]

/-- A pixel of video memory keeps the upper five bits of every channel, red lowest. -/
theorem Color.toNat_rgb15 (color : Color) :
    color.rgb15.toNat =
      1024 * (color.blue.toNat / 8) + 32 * (color.green.toNat / 8) + color.red.toNat / 8 := by
  have hred : color.red.toNat / 8 < 32 := by have := color.red.toNat_lt; omega
  have hgreen : color.green.toNat / 8 < 32 := by have := color.green.toNat_lt; omega
  have hblue : color.blue.toNat / 8 < 32 := by have := color.blue.toNat_lt; omega
  have hlow := Nat.two_pow_add_eq_or_of_lt (i := 5) hred (color.green.toNat / 8)
  have hhigh := Nat.two_pow_add_eq_or_of_lt (i := 10)
    (b := 32 * (color.green.toNat / 8) + color.red.toNat / 8) (by omega) (color.blue.toNat / 8)
  simp only [Nat.reducePow] at hlow hhigh
  simp only [rgb15, UInt16.toNat_or, UInt16.toNat_shiftLeft, UInt8.toNat_toUInt16,
    UInt8.toNat_shiftRight, UInt16.reduceToNat, UInt8.reduceToNat, Nat.reduceMod,
    Nat.shiftRight_eq_div_pow, Nat.shiftLeft_eq, Nat.reducePow]
  rw [Nat.mod_eq_of_lt (by omega), Nat.mod_eq_of_lt (by omega), Nat.mul_comm _ 1024,
    Nat.mul_comm _ 32, Nat.or_assoc, ← hlow, ← hhigh, Nat.add_assoc]

/-- The channels of a command word are its three lower bytes. -/
theorem Color.toNat_rgb15_ofWord (word : UInt32) :
    (Color.ofWord word).rgb15.toNat =
      1024 * (word.toNat / 65536 % 256 / 8) + 32 * (word.toNat / 256 % 256 / 8) +
        word.toNat % 256 / 8 := by
  rw [toNat_rgb15]
  simp [ofWord, Nat.shiftRight_eq_div_pow]

namespace Vram.Memory

variable {memory : Memory}

/-! ## Loops that give one value -/

/-- If every round of a loop gives a value to the pixel under a cursor or leaves it alone, then the
pixel has the value behind the loop if one of the rounds gives it. -/
theorem read_fold (round : Nat → Memory → Memory) {gives : Nat → Prop} [DecidablePred gives]
    {cursor : Int} {pixel : UInt16}
    (hround : ∀ i current, SameShape memory current →
      SameShape memory (round i current) ∧
        (round i current).read cursor = if gives i then pixel else current.read cursor)
    (count : Nat) :
    SameShape memory (count.fold (fun i _ current => round i current) memory) ∧
      (count.fold (fun i _ current => round i current) memory).read cursor =
        if ∃ i < count, gives i then pixel else memory.read cursor := by
  induction count with
  | zero => exact ⟨.refl memory, by simp⟩
  | succ count ih =>
      obtain ⟨hshape, hread⟩ := hround count _ ih.1
      rw [Nat.fold_succ]
      refine ⟨hshape, ?_⟩
      rw [hread, ih.2]
      by_cases hgives : gives count
      · rw [if_pos hgives, if_pos ⟨count, Nat.lt_succ_self count, hgives⟩]
      · rw [if_neg hgives]
        simp only [Nat.exists_lt_succ_right, hgives, or_false]

/-! ## Filled areas -/

/-- A filled line of an area. -/
theorem read_fillLine (hinit : memory.isAllocated = true) (x y count : Nat) (pixel : UInt16)
    (cursor : Int) :
    let line := count.fold (fun column _ current => current.writePixel (x + column) y pixel) memory
    SameShape memory line ∧
      line.read cursor =
        if ∃ column < count, memory.wrap (memory.position (x + column) y) = memory.wrap cursor then
          pixel
        else
          memory.read cursor := by
  refine read_fold (fun column current => current.writePixel (x + column) y pixel)
    (fun column current hshape => ⟨?_, ?_⟩) count
  · exact hshape.trans (sameShape_write current _ pixel)
  · rw [writePixel, read_write (hshape.isAllocated_eq.trans hinit), hshape.wrap_eq,
      hshape.wrap_eq, hshape.position_eq]

/-- A filled area. -/
theorem read_fillArea (hinit : memory.isAllocated = true) (area : Area) (pixel : UInt16)
    (cursor : Int) :
    (memory.fillArea area pixel).read cursor =
      if ∃ row < area.height, ∃ column < area.width,
          memory.wrap (memory.position (area.x + column) (area.y + row)) = memory.wrap cursor then
        pixel
      else
        memory.read cursor := by
  refine (read_fold _ (fun row current hshape => ?_) area.height).2
  obtain ⟨hline, hread⟩ := read_fillLine (hshape.isAllocated_eq.trans hinit) area.x (area.y + row)
    area.width pixel cursor
  refine ⟨hshape.trans hline, hread.trans ?_⟩
  simp only [hshape.wrap_eq, hshape.position_eq]

/-- Behind a fill, the pixels of the area have its value and all others the one they had. -/
theorem readPixel_fillArea (hinit : memory.isAllocated = true) (area : Area) (pixel : UInt16)
    {x y : Nat} (hx : x < width) (hy : y < memory.lines) :
    (memory.fillArea area pixel).readPixel x y =
      if ∃ row < area.height, ∃ column < area.width,
          x = (area.x + column) % width ∧ y = (area.y + row) % memory.lines then
        pixel
      else
        memory.readPixel x y := by
  have hposition : (memory.fillArea area pixel).position x y = memory.position x y :=
    (sameShape_fillArea memory area pixel).position_eq x y
  rw [readPixel, hposition, read_fillArea hinit]
  simp only [wrap_position, position_eq_iff, Nat.mod_eq_of_lt hx, Nat.mod_eq_of_lt hy, eq_comm]
  rfl

end Vram.Memory

/-! ## The command -/

namespace Gpu

open Vram.Memory (SameShape)

variable {gpu : Gpu}

/-- A packet that fills an area.  Filling counts as drawing. -/
theorem execute_fill (gpu : Gpu) (command position size : UInt32) :
    gpu.execute ⟨0x02, [command, position, size]⟩ =
      { gpu.fill command position size with
        status :=
          if gpu.settings.fixes.contains .fakeBusy then gpu.status.armBusy busyReadsAfterDrawing
          else gpu.status } := by
  have hperformed : gpu.execute ⟨0x02, [command, position, size]⟩ =
      if gpu.settings.fixes.contains .fakeBusy then
        { gpu.fill command position size with
          status := gpu.status.armBusy busyReadsAfterDrawing }
      else
        gpu.fill command position size :=
    rfl
  rw [hperformed]
  split
  · rfl
  · rfl

/-- The words that fill an area. -/
theorem receiveAll_fill (hidle : gpu.assembler.isIdle = true)
    (hstreaming : gpu.upload.streaming = false) {command : UInt32}
    (hcommand : Word.command command = 0x02) (position size : UInt32) :
    gpu.receiveAll [command, position, size] = gpu.execute ⟨0x02, [command, position, size]⟩ := by
  have hlength : Packet.length (Word.command command) = 3 := by
    rw [hcommand, Packet.length_eq]
    decide
  rw [receiveAll_packet hidle hstreaming (List.cons_ne_nil _ _) hlength (hlength ▸ by decide),
    hcommand]

/-- A fill gives the color of its command word to the pixels of its area, which begins at a multiple
of 16 columns, is a multiple of 16 columns wide and folds back into the image at both edges; it may
be empty.  All other pixels stay what they were, the renderer is told once, and nothing else changes
but the pretended busy sequence of a drawing command.  So it is for the packet in any state, and for
the words of the command at an idle processor. -/
theorem fill_at_once (gpu : Gpu) (command position size : UInt32)
    (hinit : gpu.isInitialized = true) :
    let lines := gpu.vram.lines
    let area : Vram.Area :=
      { x := position.toNat % 1024 / 16 * 16
        y := position.toNat / 65536 % lines
        width := (size.toNat % 1024 + 15) / 16 * 16
        height := size.toNat / 65536 % 512 }
    let red := command.toNat % 256
    let green := command.toNat / 256 % 256
    let blue := command.toNat / 65536 % 256
    let filled := gpu.execute ⟨0x02, [command, position, size]⟩
    ∃ pixel : UInt16,
      pixel.toNat = 1024 * (blue / 8) + 32 * (green / 8) + red / 8 ∧ area.width ≤ 1024 ∧
      SameShape gpu.vram filled.vram ∧
      (∀ x < 1024, ∀ y < lines,
        filled.vram.readPixel x y =
          if ∃ row < area.height, ∃ column < area.width,
              x = (area.x + column) % 1024 ∧ y = (area.y + row) % lines then
            pixel
          else
            gpu.vram.readPixel x y) ∧
      filled = { gpu with
        vram := filled.vram
        events := gpu.events.push (.fill area pixel)
        status :=
          if gpu.settings.fixes.contains .fakeBusy then gpu.status.armBusy busyReadsAfterDrawing
          else gpu.status } ∧
      (Word.command command = 0x02 → gpu.assembler.isIdle = true → gpu.upload.streaming = false →
        ∃ received, gpu.writeData [command, position, size] = (.ok (), received) ∧
          received.vram = filled.vram ∧ received.events = filled.events) := by
  intro lines area red green blue filled
  let pixel := (Color.ofWord command).rgb15
  have harea : Vram.Area.ofFillWords gpu.vram position size = area :=
    Vram.Area.ofFillWords_eq gpu.vram position size
  have hfilled : filled = { gpu.fill command position size with
      status :=
        if gpu.settings.fixes.contains .fakeBusy then gpu.status.armBusy busyReadsAfterDrawing
        else gpu.status } :=
    execute_fill gpu command position size
  have hvram : filled.vram = gpu.vram.fillArea area pixel := by
    rw [hfilled, ← harea]
    rfl
  have hwidth : area.width ≤ 1024 := by
    have := Nat.mod_lt size.toNat (show 0 < 1024 by decide)
    change (size.toNat % 1024 + 15) / 16 * 16 ≤ 1024
    omega
  refine ⟨pixel, Color.toNat_rgb15_ofWord command, hwidth, ?shape, fun x hx y hy => ?pixels, ?rest,
    fun hcommand hidle hstreaming => ?port⟩
  case shape =>
      rw [hvram]
      exact Vram.Memory.sameShape_fillArea gpu.vram area pixel
  case pixels =>
      rw [hvram]
      exact Vram.Memory.readPixel_fillArea hinit area pixel hx hy
  case rest =>
      rw [hvram, hfilled, ← harea]
      rfl
  case port =>
      let busy : Gpu := { gpu with status := gpu.status.unset Status.Mask.available }
      have hreceived := takeChunk_of_receiveAll
        (@receiveAll_fill busy hidle hstreaming command hcommand position size)
      refine ⟨_, writeData_of_isInitialized hinit _, ?_⟩
      rw [hreceived, hfilled, execute_fill]
      exact ⟨rfl, rfl⟩

/-- An area 32 columns wide and four lines high, over both edges. -/
theorem fill_at_once_edges :
    let gpu := (create {} (.create {} 1000000)).powerOn
    let filled := gpu.execute ⟨0x02, [0x02FF8040, 0x01FE03F5, 0x00040011]⟩
    gpu.isInitialized = true ∧
      ∃ pixel : UInt16,
        pixel.toNat = 1024 * 31 + 32 * 16 + 8 ∧ filled.vram.readPixel 15 1 = pixel ∧
        filled.vram.readPixel 16 1 = gpu.vram.readPixel 16 1 ∧
        filled.events = gpu.events.push (.fill ⟨1008, 510, 32, 4⟩ pixel) := by
  intro gpu filled
  have hinit : gpu.isInitialized = true := powerOn_isInitialized _
  have hlines : gpu.vram.lines = 512 := by decide +kernel
  obtain ⟨pixel, hpixel, -, -, hpixels, hrest, -⟩ :=
    fill_at_once gpu 0x02FF8040 0x01FE03F5 0x00040011 hinit
  rw [hlines] at hpixels hrest
  refine ⟨hinit, pixel, hpixel, ?_, ?_, ?_⟩
  · rw [hpixels 15 (by decide) 1 (by decide)]
    exact if_pos ⟨3, by decide, 31, by decide, by decide⟩
  · rw [hpixels 16 (by decide) 1 (by decide)]
    exact if_neg (by decide)
  · exact congrArg Gpu.events hrest

end Gpu

end GpuCore
