import GpuCore.Proofs.DataChannel.RoundTrip
import GpuCore.Proofs.Vram.Placed

/-!
# Copying an image through the program

A program can move an image by one command, or read it and write it again.  Both take every pixel of
one area to another area of the same size.  A move folds every line of an area back into the image
by itself.  A transfer does not, and so puts what runs over the right edge one line lower, where it
lies outside of the area that the renderer is told.

Main definitions:

- `Gpu.copyImage`: read an area and write the words to another one.

Main results:

- `Gpu.placed_upload`, `Gpu.placed_copyImage` and `Gpu.placed_moveImage`: the pixels that an upload,
  a copy and a move replace.
- `Gpu.copyImage_moveImage`: the two ways side by side, and when they leave the same image.
- `Gpu.copyImage_below` and `Gpu.copyImage_ne_moveImage`: over the right edge they do not.
-/

namespace GpuCore.Gpu

open Vram.Memory (Stored Placed)

variable {gpu : Gpu}

/-! ## Uploads -/

/-- An upload puts the pixels of its data words on the lines and columns of its area, lowered behind
the right edge, and tells the renderer the area. -/
theorem placed_upload (hinit : gpu.isInitialized = true) (hidle : gpu.assembler.isIdle = true)
    (hstreaming : gpu.upload.streaming = false) (position size : UInt32) {data : List UInt32}
    (hdata : data.length = (Vram.Area.ofTransferWords gpu.vram position size).wordCount) :
    let area := Vram.Area.ofTransferWords gpu.vram position size
    ∃ received,
      gpu.writeData ([0xA0000000, position, size] ++ data) = (.ok (), received) ∧
      received =
        emit { gpu with vram := received.vram, upload := {}, status := received.status }
          (.upload area) ∧
      Placed Vram.carry area (fun row column => Word.pixel data (area.width * row + column))
        gpu.vram received.vram := by
  intro area
  obtain ⟨memory, hstored, htaken⟩ := takeChunk_upload hinit hidle hstreaming position size hdata
  have hwritten := writeData_of_isInitialized hinit ([0xA0000000, position, size] ++ data)
  rw [htaken] at hwritten
  exact ⟨_, hwritten, rfl,
    hstored.placed_stream (Vram.Area.fits_ofTransferWords gpu.vram position size)⟩

/-! ## Copies through the program -/

/-- What a program does to copy an image: it begins to read the area of `source`, takes its words by
`reads`, and writes them to the area of `destination`. -/
def copyImage (gpu : Gpu) (source destination size : UInt32) (reads : List DataRead) :
    Except Fault Unit × Gpu :=
  match gpu.writeData [0xC0000000, source, size] with
  | (.error fault, gpu) => (.error fault, gpu)
  | (.ok (), gpu) =>
    match gpu.readAll reads with
    | (.error fault, gpu) => (.error fault, gpu)
    | (.ok words, gpu) => gpu.writeData ([0xA0000000, destination, size] ++ words)

/-- A copy takes every pixel to the one of the same number, by the order of transfers in both
areas. -/
theorem stored_copyImage (hinit : gpu.isInitialized = true) (hidle : gpu.assembler.isIdle = true)
    (hstreaming : gpu.upload.streaming = false) (source destination size : UInt32)
    {reads : List DataRead}
    (hdrains : DataRead.drains (Vram.Area.ofTransferWords gpu.vram source size).wordCount reads =
      true) :
    let origin := Vram.Area.ofTransferWords gpu.vram source size
    let target := Vram.Area.ofTransferWords gpu.vram destination size
    ∃ copied,
      gpu.copyImage source destination size reads = (.ok (), copied) ∧
      copied.events = gpu.events.push (.upload target) ∧
      Stored (gpu.vram.streamPosition target)
        (fun index => gpu.vram.read (gpu.vram.streamPosition origin index)) target.pixelCount
        gpu.vram copied.vram := by
  intro origin target
  obtain ⟨after, hread, hrest, -⟩ := readAll_download hinit hidle hstreaming source size hdrains
  have hvram : after.vram = gpu.vram := by rw [hrest]
  have hevents : after.events = gpu.events := by rw [hrest]
  have hinit' : after.isInitialized = true := by
    rw [isInitialized, hvram]
    exact hinit
  have hidle' : after.assembler.isIdle = true := by
    rw [hrest]
    exact hidle
  have hstreaming' : after.upload.streaming = false := by
    rw [hrest]
    exact hstreaming
  have hwritten := @takeChunk_upload after hinit' hidle' hstreaming' destination size
    (gpu.vram.dataWords origin 0 origin.wordCount)
  rw [hvram] at hwritten
  obtain ⟨memory, hstored, htaken⟩ := hwritten (Vram.Memory.length_dataWords _ _ _ _)
  have hcopied : gpu.copyImage source destination size reads =
      (.ok (), after.takeChunk ([0xA0000000, destination, size] ++
        gpu.vram.dataWords origin 0 origin.wordCount)) := by
    rw [copyImage, writeData_of_isInitialized hinit]
    dsimp only
    rw [hread]
    exact writeData_of_isInitialized hinit' _
  rw [htaken] at hcopied
  refine ⟨_, hcopied, ?_, ?_⟩
  · rw [emit, hevents]
  · exact hstored.congr_pixel fun index hindex => Vram.Memory.pixel_dataWords gpu.vram hindex

/-- The same by lines and columns. -/
theorem placed_copyImage (hinit : gpu.isInitialized = true) (hidle : gpu.assembler.isIdle = true)
    (hstreaming : gpu.upload.streaming = false) (source destination size : UInt32)
    {reads : List DataRead}
    (hdrains : DataRead.drains (Vram.Area.ofTransferWords gpu.vram source size).wordCount reads =
      true) :
    let origin := Vram.Area.ofTransferWords gpu.vram source size
    let target := Vram.Area.ofTransferWords gpu.vram destination size
    ∃ copied,
      gpu.copyImage source destination size reads = (.ok (), copied) ∧
      copied.events = gpu.events.push (.upload target) ∧
      Placed Vram.carry target
        (fun row column => gpu.vram.readPixel (origin.x + column)
          (origin.y + row + Vram.carry (origin.x + column))) gpu.vram copied.vram := by
  intro origin target
  obtain ⟨copied, hcopy, hevents, hstored⟩ :=
    stored_copyImage hinit hidle hstreaming source destination size hdrains
  have hplaced := hstored.placed_copy Vram.carry
    (fun _ hfits row _ => Vram.Memory.streamPosition_line hfits row)
    (Vram.Area.fits_ofTransferWords gpu.vram source size)
    (Vram.Area.fits_ofTransferWords gpu.vram destination size) rfl
  exact ⟨copied, hcopy, hevents, hplaced⟩

/-! ## Moves -/

/-- A move takes every pixel to the one of the same number, line by line.  There is nothing to do if
the areas are the same. -/
theorem stored_moveImage (hinit : gpu.isInitialized = true) (source destination size : UInt32) :
    let origin := Vram.Area.ofTransferWords gpu.vram source size
    let target := Vram.Area.ofTransferWords gpu.vram destination size
    Stored (gpu.vram.gridPosition target)
      (fun index => gpu.vram.read (gpu.vram.gridPosition origin index)) target.pixelCount
      gpu.vram (gpu.moveImage source destination size).vram := by
  intro origin target
  unfold moveImage
  dsimp only
  split
  · next hsame =>
      have hx : origin.x = target.x := hsame.1
      have hy : origin.y = target.y := hsame.2
      have harea : target = origin := by
        calc
          target = { origin with x := target.x, y := target.y } := rfl
          _ = origin := by rw [← hx, ← hy]
      rw [harea]
      exact .self fun _ _ => rfl
  · exact Vram.Memory.stored_moveArea hinit (Vram.Area.fits_ofTransferWords gpu.vram source size)
      (Vram.Area.fits_ofTransferWords gpu.vram destination size).x_lt

/-- The command that moves an image takes every pixel to the same line and column. -/
theorem placed_moveImage (hinit : gpu.isInitialized = true) (hidle : gpu.assembler.isIdle = true)
    (hstreaming : gpu.upload.streaming = false) (source destination size : UInt32) :
    let origin := Vram.Area.ofTransferWords gpu.vram source size
    let target := Vram.Area.ofTransferWords gpu.vram destination size
    ∃ moved,
      gpu.writeData [0x80000000, source, destination, size] = (.ok (), moved) ∧
      Placed (fun _ => 0) target
        (fun row column => gpu.vram.readPixel (origin.x + column) (origin.y + row))
        gpu.vram moved.vram := by
  intro origin target
  let busy : Gpu := { gpu with status := gpu.status.unset Status.Mask.available }
  have hmoved := takeChunk_of_receiveAll
    (@receiveAll_move busy hidle hstreaming 0x80000000 (by decide) source destination size)
  have hplaced := (@stored_moveImage busy hinit source destination size).placed_copy
    (fun _ => 0) (fun _ hfits row _ => Vram.Memory.gridPosition_line hfits row)
    (Vram.Area.fits_ofTransferWords gpu.vram source size)
    (Vram.Area.fits_ofTransferWords gpu.vram destination size) rfl
  refine ⟨_, writeData_of_isInitialized hinit _, ?_⟩
  rw [hmoved]
  exact hplaced

/-! ## The two ways compared -/

/-- No column of an area within the right edge is lowered. -/
theorem carry_eq_zero {area : Vram.Area} (hedge : area.x + area.width ≤ Vram.width) {column : Nat}
    (hcolumn : column < area.width) : Vram.carry (area.x + column) = 0 := by
  rw [Vram.carry, Nat.div_eq_of_lt (by omega)]

/-- The two ways leave the same image if there is nothing to do, or if both areas stay within the
right edge. -/
theorem pixels_eq_of_edge {memory moved copied : Vram.Memory} {origin target : Vram.Area}
    (hinit : memory.isAllocated = true) (hwidth : origin.width = target.width)
    (hmoved : Placed (fun _ => 0) target
      (fun row column => memory.readPixel (origin.x + column) (origin.y + row)) memory moved)
    (hcopied : Placed Vram.carry target
      (fun row column => memory.readPixel (origin.x + column)
        (origin.y + row + Vram.carry (origin.x + column))) memory copied)
    (hagree : origin = target ∨
      origin.x + origin.width ≤ Vram.width ∧ target.x + target.width ≤ Vram.width) :
    moved.pixels = copied.pixels := by
  rcases hagree with hsame | ⟨hedge, hedge'⟩
  · subst hsame
    have hkept := hmoved.pixels_eq (.self (fun _ => 0) fun _ _ _ _ => rfl) hinit (fun _ _ => rfl)
      fun _ _ _ _ => rfl
    have hkept' := hcopied.pixels_eq (.self Vram.carry fun _ _ _ _ => rfl) hinit (fun _ _ => rfl)
      fun _ _ _ _ => rfl
    rw [hkept, hkept']
  · refine hmoved.pixels_eq hcopied hinit (fun column hcolumn => ?_) fun row _ column hcolumn => ?_
    · rw [carry_eq_zero hedge' hcolumn]
    · rw [carry_eq_zero hedge (hwidth ▸ hcolumn), Nat.add_zero]

/-- A copy through the program succeeds however the words are read, and so does a move.  The copy
puts at `target` what was at `origin`, both lowered behind the right edge, as every upload is
lowered; the move lowers nothing.  They leave the same image if the areas are the same or both stay
within the right edge. -/
theorem copyImage_moveImage (gpu : Gpu) (source destination size : UInt32)
    (reads : List DataRead) (hinit : gpu.isInitialized = true)
    (hidle : gpu.assembler.isIdle = true) (hstreaming : gpu.upload.streaming = false)
    (hdrains : DataRead.drains (Vram.Area.ofTransferWords gpu.vram source size).wordCount reads =
      true) :
    let origin := Vram.Area.ofTransferWords gpu.vram source size
    let target := Vram.Area.ofTransferWords gpu.vram destination size
    (∃ copied moved,
      gpu.copyImage source destination size reads = (.ok (), copied) ∧
      gpu.writeData [0x80000000, source, destination, size] = (.ok (), moved) ∧
      copied.events = gpu.events.push (.upload target) ∧
      Placed Vram.carry target
        (fun row column => gpu.vram.readPixel (origin.x + column)
          (origin.y + row + Vram.carry (origin.x + column))) gpu.vram copied.vram ∧
      Placed (fun _ => 0) target
        (fun row column => gpu.vram.readPixel (origin.x + column) (origin.y + row))
        gpu.vram moved.vram ∧
      (origin = target ∨
          origin.x + origin.width ≤ Vram.width ∧ target.x + target.width ≤ Vram.width →
        moved.vram.pixels = copied.vram.pixels)) ∧
      ∀ data, data.length = target.wordCount →
        ∃ received,
          gpu.writeData ([0xA0000000, destination, size] ++ data) = (.ok (), received) ∧
          received.events = gpu.events.push (.upload target) ∧
          Placed Vram.carry target
            (fun row column => Word.pixel data (target.width * row + column))
            gpu.vram received.vram := by
  intro origin target
  obtain ⟨copied, hcopy, hevents, hcopied⟩ :=
    placed_copyImage hinit hidle hstreaming source destination size hdrains
  obtain ⟨moved, hmove, hmoved⟩ := placed_moveImage hinit hidle hstreaming source destination size
  refine ⟨⟨copied, moved, hcopy, hmove, hevents, hcopied, hmoved,
    pixels_eq_of_edge hinit rfl hmoved hcopied⟩, fun data hdata => ?_⟩
  obtain ⟨received, hwritten, hrest, hplaced⟩ :=
    placed_upload hinit hidle hstreaming destination size hdata
  exact ⟨received, hwritten, by rw [hrest, emit], hplaced⟩

/-- Nine pixels moved to an area that overlaps their own, and copied with the words taken in parts.
-/
theorem copyImage_moveImage_overlap :
    let gpu := (create {} (.create {} 1000000)).powerOn
    let source : UInt32 := 0x00040003
    let destination : UInt32 := 0x00050004
    let size : UInt32 := 0x00030003
    let reads : List DataRead := [.chunk [0, 0], .word, .chunk [], .chunk [0, 0, 0]]
    let origin := Vram.Area.ofTransferWords gpu.vram source size
    let target := Vram.Area.ofTransferWords gpu.vram destination size
    gpu.isInitialized = true ∧ gpu.assembler.isIdle = true ∧ gpu.upload.streaming = false ∧
      DataRead.drains origin.wordCount reads = true ∧
      (origin.x + origin.width ≤ Vram.width ∧ target.x + target.width ≤ Vram.width) ∧
      ∃ copied moved,
        gpu.copyImage source destination size reads = (.ok (), copied) ∧
        gpu.writeData [0x80000000, source, destination, size] = (.ok (), moved) ∧
        moved.vram.pixels = copied.vram.pixels := by
  intro gpu source destination size reads origin target
  have hinit : gpu.isInitialized = true := powerOn_isInitialized _
  have hidle : gpu.assembler.isIdle = true := rfl
  have hstreaming : gpu.upload.streaming = false := rfl
  have hdrains : DataRead.drains origin.wordCount reads = true := by decide +kernel
  have hedge : origin.x + origin.width ≤ Vram.width ∧ target.x + target.width ≤ Vram.width := by
    decide +kernel
  obtain ⟨⟨copied, moved, hcopy, hmove, -, -, -, hsame⟩, -⟩ :=
    copyImage_moveImage gpu source destination size reads hinit hidle hstreaming hdrains
  exact ⟨hinit, hidle, hstreaming, hdrains, hedge, copied, moved, hcopy, hmove,
    hsame (.inr hedge)⟩

/-! ## Over the right edge -/

/-- Where the destination runs over the right edge, a copy puts pixels of the last line on the line
below the destination, and a move leaves that line alone.  The images differ if these pixels do. -/
theorem copyImage_below {origin target : Vram.Area} (hinit : gpu.isInitialized = true)
    (hidle : gpu.assembler.isIdle = true) (hstreaming : gpu.upload.streaming = false)
    {source destination size : UInt32} {reads : List DataRead}
    (horigin : Vram.Area.ofTransferWords gpu.vram source size = origin)
    (htarget : Vram.Area.ofTransferWords gpu.vram destination size = target)
    (hdrains : DataRead.drains origin.wordCount reads = true) {column : Nat}
    (hcolumn : column < target.width) (hedge : Vram.width ≤ target.x + column)
    (hheight : target.height < gpu.vram.lines) :
    let last := gpu.vram.readPixel (origin.x + column)
      (origin.y + (target.height - 1) + Vram.carry (origin.x + column))
    let below (gpu : Gpu) := gpu.vram.readPixel (target.x + column) (target.y + target.height)
    ∃ copied moved,
      gpu.copyImage source destination size reads = (.ok (), copied) ∧
      gpu.writeData [0x80000000, source, destination, size] = (.ok (), moved) ∧
      copied.events = gpu.events.push (.upload target) ∧
      below copied = last ∧ below moved = below gpu ∧
      (below gpu ≠ last → moved.vram.pixels ≠ copied.vram.pixels) := by
  subst horigin htarget
  intro last below
  have hfits := Vram.Area.fits_ofTransferWords gpu.vram destination size
  obtain ⟨copied, hcopy, hevents, hcopied⟩ :=
    placed_copyImage hinit hidle hstreaming source destination size hdrains
  obtain ⟨moved, hmove, hmoved⟩ := placed_moveImage hinit hidle hstreaming source destination size
  have hlowered : below copied = last := hcopied.below hfits column hcolumn hedge
  have hkept : below moved = below gpu := hmoved.kept_below hheight _
  refine ⟨copied, moved, hcopy, hmove, hevents, hlowered, hkept, fun hother hsame => hother ?_⟩
  have hread := ((hmoved.shape.symm.trans hcopied.shape).pixels_eq_iff
    (hmoved.shape.isAllocated_eq.trans hinit)).1 hsame
  rw [← hkept, ← hlowered]
  exact hread _ _

/-- Two pixels in the corner of a black image, taken over the right edge of line 4.  The copy puts
the second one on line 5, which the move leaves black, outside of the area that it tells the
renderer. -/
theorem copyImage_ne_moveImage :
    let fresh := (create {} (.create {} 1000000)).powerOn
    let gpu := (fresh.writeData [0xA0000000, 0, 0x00010002, 0x00020001]).2
    gpu.isInitialized = true ∧ gpu.assembler.isIdle = true ∧ gpu.upload.streaming = false ∧
      gpu.download.streaming = false ∧
      ∃ copied moved,
        gpu.copyImage 0 0x000403FF 0x00010002 [.word] = (.ok (), copied) ∧
        gpu.writeData [0x80000000, 0, 0x000403FF, 0x00010002] = (.ok (), moved) ∧
        copied.events = gpu.events.push (.upload ⟨1023, 4, 2, 1⟩) ∧
        copied.vram.readPixel 0 5 = 2 ∧ moved.vram.readPixel 0 5 = 0 ∧
        moved.vram.pixels ≠ copied.vram.pixels := by
  intro fresh gpu
  have hfresh : fresh.isInitialized = true := powerOn_isInitialized _
  have hlines : fresh.vram.lines = 512 := by decide +kernel
  have horigin : Vram.Area.ofTransferWords fresh.vram 0 0x00010002 = ⟨0, 0, 2, 1⟩ := by
    decide +kernel
  have htarget : Vram.Area.ofTransferWords fresh.vram 0x000403FF 0x00010002 = ⟨1023, 4, 2, 1⟩ := by
    decide +kernel
  -- The image is too large to be computed; what the upload left in it follows from its laws.
  obtain ⟨received, hwritten, hrest, hplaced⟩ := @placed_upload fresh hfresh rfl rfl 0 0x00010002
    [0x00020001] (by rw [horigin]; rfl)
  have hgpu : gpu = received := congrArg Prod.snd hwritten
  clear_value gpu
  subst hgpu
  rw [horigin] at hplaced
  have hsecond : gpu.vram.readPixel 1 0 = 2 := hplaced.inside 0 (by decide) 1 (by decide)
  have hblack : gpu.vram.readPixel 1024 5 = 0 := by
    refine (hplaced.outside 1024 5 fun row hrow column hcolumn hposition => ?_).trans
      (Vram.Memory.read_allocate _ _)
    have hline := ((fresh.vram.position_eq_iff _ _ _ _).1 hposition).2
    rw [hlines] at hline
    dsimp only [Vram.carry, Vram.width] at hline hrow hcolumn
    omega
  have hinit : gpu.isInitialized = true := hplaced.shape.isAllocated_eq.trans hfresh
  have hidle : gpu.assembler.isIdle = true := by rw [hrest]; rfl
  have hstreaming : gpu.upload.streaming = false := by rw [hrest]; rfl
  have hdownload : gpu.download.streaming = false := by rw [hrest]; rfl
  rw [← hplaced.shape.ofTransferWords_eq] at horigin htarget
  rw [← hplaced.shape.lines_eq] at hlines
  obtain ⟨copied, moved, hcopy, hmove, hevents, hlowered, hkept, hdiffer⟩ :=
    @copyImage_below gpu _ _ hinit hidle hstreaming _ _ _ [.word] horigin htarget (by decide) 1
      (by decide) (by decide) (by rw [hlines]; decide)
  refine ⟨hinit, hidle, hstreaming, hdownload, copied, moved, hcopy, hmove, hevents, ?_, ?_,
    hdiffer ?_⟩
  · exact (copied.vram.readPixel_mod_width 1024 5).trans (hlowered.trans hsecond)
  · exact (moved.vram.readPixel_mod_width 1024 5).trans (hkept.trans hblack)
  · change gpu.vram.readPixel 1024 5 ≠ gpu.vram.readPixel 1 0
    rw [hblack, hsecond]
    decide

end GpuCore.Gpu
