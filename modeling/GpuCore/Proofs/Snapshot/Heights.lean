import GpuCore.Proofs.Freeze.Format
import GpuCore.Proofs.Freeze.RoundTrip
import GpuCore.Snapshot.File

/-!
# Snapshots between machines of different heights

The record of a snapshot is read with the image size of the processor that takes it over, so that
the record of a larger image is cut off at that size and passes for a smaller one.  Only a record
that is too short is refused.

Main definitions:

- `Freeze.Record.cut`: a record with the front of its image only.

Main results:

- `Freeze.Record.ofBytes_toBytes_smaller`: reading a record with fewer pixels cuts it.
- `Gpu.restore_record_iff`: which processors restore the record of another one.
- `Gpu.apply_capture_iff`: which processors take a snapshot over, and what they hold afterwards.
- `Gpu.apply_capture_across_heights`: a snapshot of 1024 lines is taken over with 512 lines.
-/

namespace GpuCore

open GpuCore.Calendar (Instant)

/-! ## Cutting a record -/

namespace Freeze.Record

variable (record : Record)

/-- The record with the first pixels of its image only. -/
def cut (count : Nat) : Record :=
  { record with pixels := record.pixels.extract 0 count }

theorem size_pixels_cut {count : Nat} (hcount : count ≤ record.pixels.size) :
    (record.cut count).pixels.size = count := by
  rw [cut, Array.size_extract]
  omega

/-- The image of a record goes on behind that of the cut one. -/
theorem imageBytes_eq_cut_append (count : Nat) :
    record.imageBytes =
      (record.cut count).imageBytes ++ (record.pixels.toList.drop count).flatMap pixelBytes := by
  have hfront : (record.cut count).pixels.toList = record.pixels.toList.take count := by
    simp [cut]
  rw [imageBytes, imageBytes, hfront, ← List.flatMap_append, List.take_append_drop]

/-- The bytes of a record go on behind those of the cut one. -/
theorem toBytes_eq_cut_append (count : Nat) :
    ∃ rest, record.toBytes = (record.cut count).toBytes ++ rest := by
  refine ⟨((record.pixels.toList.drop count).flatMap pixelBytes).toArray, ?_⟩
  rw [toBytes_eq_layout, toBytes_eq_layout, List.append_toArray]
  simp only [layout, List.append_assoc, record.imageBytes_eq_cut_append count]
  rfl

/-- Reading a record with fewer pixels than it has cuts it. -/
theorem ofBytes_toBytes_smaller (hversion : record.version = Freeze.version) {count : Nat}
    (hcount : count ≤ record.pixels.size) :
    ofBytes record.toBytes count = .ok (record.cut count) := by
  obtain ⟨rest, hrest⟩ := record.toBytes_eq_cut_append count
  have hread := (record.cut count).ofBytes_toBytes_append rest hversion
  rwa [← hrest, size_pixels_cut record hcount] at hread

/-- Reading a record with more pixels than it has is refused. -/
theorem ofBytes_toBytes_larger (hversion : record.version = Freeze.version) {count : Nat}
    (hcount : record.pixels.size < count) :
    ofBytes record.toBytes count = .error (.bufferSize (recordSize count) record.size) := by
  have hfront : wordIn record.toBytes 0 = record.version := by
    have hword := record.wordIn_toBytes_version #[]
    rwa [Array.append_empty] at hword
  have hsize : record.toBytes.size = headerSize + record.pixels.size * 2 := record.size_toBytes
  have hheader : ¬ record.toBytes.size < 8 := by
    rw [hsize, headerSize]
    omega
  have hshort : record.toBytes.size < recordSize count := by
    rw [hsize, recordSize]
    omega
  rw [ofBytes, if_neg hheader, if_neg (by rw [hfront, hversion]; simp), if_pos hshort,
    size_toBytes]

end Freeze.Record

namespace Gpu

/-! ## Taking snapshots over -/

variable {source target : Gpu}

/-- A snapshot holds the bytes of the record of the current state. -/
theorem capture_of_initialized (hsource : source.isInitialized = true) (now : Instant) :
    ∃ snapshot, source.capture now = .ok snapshot ∧ snapshot.record = source.record.toBytes := by
  let captured : Snapshot :=
    { version := Snapshot.currentVersion
      taken := now
      slot := source.saveSlot
      doubledMemory := source.vram.height = .doubled
      record := source.record.toBytes }
  have hcaptured : source.capture now = .ok captured := by
    rw [capture, snapshot_of_initialized hsource]
    rfl
  exact ⟨captured, hcaptured, by dsimp only [captured]⟩

/-- Without video memory no bytes are restored. -/
theorem restoreBytes_of_uninitialized (htarget : ¬ target.isInitialized = true)
    (bytes : Array UInt8) : ∃ fault, target.restoreBytes bytes = (.error fault, target) := by
  rw [restoreBytes]
  split
  · exact ⟨.notInitialized, if_neg htarget⟩
  · exact ⟨_, rfl⟩

/-- A record of at least as many lines is cut to the lines that there are. -/
theorem restoreBytes_of_more_lines (hsource : source.isInitialized = true)
    (htarget : target.isInitialized = true) (hlines : target.vram.lines ≤ source.vram.lines) :
    target.restoreBytes source.record.toBytes =
      (.ok (), target.thaw (source.record.cut target.vram.size)) := by
  have hcount : target.vram.size ≤ source.record.pixels.size := by
    rw [size_record_pixels hsource, Vram.Memory.size_le_iff]
    exact hlines
  rw [restoreBytes, Freeze.Record.ofBytes_toBytes_smaller source.record rfl hcount]
  exact restore_of_fits htarget rfl (Freeze.Record.size_pixels_cut _ hcount)

/-- A record of fewer lines is refused. -/
theorem restoreBytes_of_fewer_lines (hsource : source.isInitialized = true)
    (hlines : source.vram.lines < target.vram.lines) :
    target.restoreBytes source.record.toBytes =
      (.error (.bufferSize target.freezeSize source.freezeSize), target) := by
  have hcount : source.record.pixels.size < target.vram.size := by
    rw [size_record_pixels hsource, ← Nat.not_le, Vram.Memory.size_le_iff]
    exact Nat.not_le.mpr hlines
  rw [restoreBytes, Freeze.Record.ofBytes_toBytes_larger source.record rfl hcount,
    size_record hsource]
  rfl

/-- Bytes of a record are either taken over or leave no trace. -/
theorem restoreBytes_record_cases (target : Gpu) (hsource : source.isInitialized = true) :
    (target.isInitialized = true ∧ target.vram.lines ≤ source.vram.lines ∧
      target.restoreBytes source.record.toBytes =
        (.ok (), target.thaw (source.record.cut target.vram.size))) ∨
    (¬ (target.isInitialized = true ∧ target.vram.lines ≤ source.vram.lines) ∧
      ∃ fault, target.restoreBytes source.record.toBytes = (.error fault, target)) := by
  by_cases htarget : target.isInitialized = true
  · by_cases hlines : target.vram.lines ≤ source.vram.lines
    · exact .inl ⟨htarget, hlines, restoreBytes_of_more_lines hsource htarget hlines⟩
    · exact .inr ⟨fun h => hlines h.2, _,
        restoreBytes_of_fewer_lines hsource (Nat.lt_of_not_le hlines)⟩
  · exact .inr ⟨fun h => htarget h.1, restoreBytes_of_uninitialized htarget _⟩

/-- A refusal is no success. -/
theorem error_ne_ok (fault : Fault) : Except.error fault ≠ (.ok () : Except Fault Unit) := by
  intro h
  cases h

/-- The record itself, which knows the size of its image, is restored with the same height only. -/
theorem restore_record_iff (hsource : source.isInitialized = true) :
    (target.restore source.record).1 = .ok () ↔
      target.isInitialized = true ∧ target.vram.height = source.vram.height := by
  have hsize : source.record.pixels.size = target.vram.size ↔
      target.vram.height = source.vram.height := by
    rw [size_record_pixels hsource, Vram.Memory.size_eq_iff, eq_comm]
  have hversion : source.record.version = Freeze.version := rfl
  by_cases htarget : target.isInitialized = true
  · by_cases hheight : target.vram.height = source.vram.height
    · rw [restore_of_fits htarget hversion (hsize.mpr hheight)]
      exact ⟨fun _ => ⟨htarget, hheight⟩, fun _ => rfl⟩
    · have hrefused : target.restore source.record =
          (.error (.bufferSize target.freezeSize source.record.size), target) := by
        rw [restore, ifInitialized, if_pos htarget, if_neg (not_not_intro hversion),
          if_pos fun h => hheight (hsize.mp h)]
      rw [hrefused]
      exact ⟨fun h => absurd h (error_ne_ok _), fun h => absurd h.2 hheight⟩
  · have hrefused : target.restore source.record = (.error .notInitialized, target) :=
      if_neg htarget
    rw [hrefused]
    exact ⟨fun h => absurd h (error_ne_ok _), fun h => absurd h.1 htarget⟩

/-- A snapshot is taken over by every processor with video memory of at most as many lines.  It
then has status word and control slots of the snapshot and the front of its image, which is all of
the image only if both have the same height.  Any other processor is left as it was. -/
theorem apply_capture_iff (source target : Gpu) (now : Instant)
    (hsource : source.isInitialized = true) :
    ∃ snapshot, source.capture now = .ok snapshot ∧
      ((snapshot.apply target).1 = .ok () ↔
        target.isInitialized = true ∧ target.vram.lines ≤ source.vram.lines) ∧
      ((snapshot.apply target).1 = .ok () →
        (snapshot.apply target).2.status.word = source.status.word ∧
          (snapshot.apply target).2.control = source.control ∧
          (snapshot.apply target).2.vram.pixels =
            source.vram.pixels.extract 0 target.vram.size ∧
          ((snapshot.apply target).2.vram.pixels = source.vram.pixels ↔
            target.vram.height = source.vram.height)) ∧
      ((snapshot.apply target).1 ≠ .ok () → (snapshot.apply target).2 = target) := by
  obtain ⟨snapshot, hcaptured, hrecord⟩ := capture_of_initialized hsource now
  have happly : snapshot.apply target = target.restoreBytes source.record.toBytes := by
    rw [Snapshot.apply, hrecord]
  refine ⟨snapshot, hcaptured, ?_⟩
  rw [happly]
  obtain ⟨htarget, hlines, hrestored⟩ | ⟨hrefused, fault, hrestored⟩ :=
    restoreBytes_record_cases target hsource
  · have hcount : target.vram.size ≤ source.record.pixels.size := by
      rw [size_record_pixels hsource, Vram.Memory.size_le_iff]
      exact hlines
    -- The record was cut to the size of the target before its size was looked at.
    have hpixels : (target.thaw (source.record.cut target.vram.size)).vram.pixels =
        source.vram.pixels.extract 0 target.vram.size := by
      rw [pixels_thaw htarget (Freeze.Record.size_pixels_cut _ hcount), Freeze.Record.cut,
        pixels_record]
    rw [hrestored]
    dsimp only
    refine ⟨⟨fun _ => ⟨htarget, hlines⟩, fun _ => rfl⟩,
      fun _ => ⟨word_thaw _ _, control_thaw _ _, hpixels, ?_⟩, fun h => absurd rfl h⟩
    rw [size_record_pixels hsource, ← Vram.Memory.size_pixels hsource] at hcount
    rw [hpixels, ← Vram.Memory.size_eq_iff, ← Vram.Memory.size_pixels hsource]
    constructor
    · intro hwhole
      have hsize := congrArg Array.size hwhole
      rw [Array.size_extract] at hsize
      omega
    · intro hsize
      rw [hsize, Array.extract_size]
  · rw [hrestored]
    have herror := error_ne_ok fault
    exact ⟨⟨fun h => absurd h herror, fun h => absurd h hrefused⟩, fun h => absurd h herror,
      fun _ => rfl⟩

/-- A snapshot of a machine with doubled memory in one without. -/
theorem apply_capture_iff_doubled :
    let source := (create { doubledMemory := true } (.create {} 1000000)).powerOn
    let target := (create {} (.create {} 1000000)).powerOn
    source.isInitialized = true ∧
      ∃ snapshot, source.capture default = .ok snapshot ∧
        (snapshot.apply target).1 = .ok () ∧
        (snapshot.apply target).2.control = source.control ∧
        (snapshot.apply target).2.vram.pixels =
          source.vram.pixels.extract 0 target.vram.size := by
  intro source target
  have hsource : source.isInitialized = true := powerOn_isInitialized _
  have htarget : target.isInitialized = true := powerOn_isInitialized _
  have hlines : target.vram.lines ≤ source.vram.lines := by
    show 512 ≤ 1024
    decide
  obtain ⟨snapshot, hcaptured, haccepted, htaken, _⟩ :=
    apply_capture_iff source target default hsource
  have happlied := haccepted.mpr ⟨htarget, hlines⟩
  obtain ⟨_, hcontrol, hpixels, _⟩ := htaken happlied
  exact ⟨hsource, snapshot, hcaptured, happlied, hcontrol, hpixels⟩

/-- A snapshot of 1024 lines is taken over by a processor with 512 lines, which then holds another
image. -/
theorem apply_capture_across_heights :
    let source := (create { doubledMemory := true } (.create {} 1000000)).powerOn
    let target := (create {} (.create {} 1000000)).powerOn
    source.isInitialized = true ∧ target.isInitialized = true ∧
      source.vram.height ≠ target.vram.height ∧
      ∃ snapshot, source.capture default = .ok snapshot ∧
        (snapshot.apply target).1 = .ok () ∧
        (snapshot.apply target).2.vram.pixels ≠ source.vram.pixels := by
  intro source target
  have hsource : source.isInitialized = true := powerOn_isInitialized _
  have htarget : target.isInitialized = true := powerOn_isInitialized _
  have hsourceSize : source.vram.size = 1048576 := rfl
  have htargetSize : target.vram.size = 524288 := rfl
  have hlines : target.vram.lines ≤ source.vram.lines := by
    show 512 ≤ 1024
    decide
  have hcount : target.vram.size ≤ source.record.pixels.size := by
    rw [size_record_pixels hsource, Vram.Memory.size_le_iff]
    exact hlines
  obtain ⟨snapshot, hcaptured, hrecord⟩ := capture_of_initialized hsource default
  have happly : snapshot.apply target =
      (.ok (), target.thaw (source.record.cut target.vram.size)) := by
    rw [Snapshot.apply, hrecord]
    exact restoreBytes_of_more_lines hsource htarget hlines
  have hheights : source.vram.height ≠ target.vram.height := by
    rw [ne_eq, ← Vram.Memory.size_eq_iff, hsourceSize, htargetSize]
    decide
  refine ⟨hsource, htarget, hheights, snapshot, hcaptured, ?_, ?_⟩
  · rw [happly]
  · intro hpixels
    rw [happly] at hpixels
    have hsize := congrArg Array.size hpixels
    rw [pixels_thaw htarget (Freeze.Record.size_pixels_cut _ hcount),
      Freeze.Record.size_pixels_cut _ hcount, Vram.Memory.size_pixels hsource, htargetSize,
      hsourceSize] at hsize
    omega

end Gpu

end GpuCore
