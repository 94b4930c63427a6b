import GpuCore.Proofs.Freeze.Codec

/-!
# The format of freeze records

Reading a record undoes writing it, and writing it undoes reading it.  No two byte strings of the
size of a record stand for the same record, and no byte of a record is ignored.

Main results:

- `Freeze.wordBytes_wordIn` and `Freeze.pixelBytes_pixelIn`: the bytes of a number are those that
  it was read from.
- `Freeze.Record.toBytes_of_ofBytes`: the bytes of a record are those that it was read from.
- `Freeze.Record.ofBytes_eq_ok_iff`: the byte strings that a record is read from.
- `Freeze.Record.codec_bijective`: reading, writing and writing in place fit together.
-/

namespace GpuCore.Freeze

/-! ## Numbers in place -/

theorem byteIn_lt (bytes : Array UInt8) (offset : Nat) : byteIn bytes offset < 256 :=
  UInt8.toNat_lt _

/-- A word counts its bytes from the lowest one on. -/
theorem toNat_wordIn (bytes : Array UInt8) (offset : Nat) :
    (wordIn bytes offset).toNat =
      byteIn bytes offset + byteIn bytes (offset + 1) * 256 +
        byteIn bytes (offset + 2) * 65536 + byteIn bytes (offset + 3) * 16777216 := by
  have h0 := byteIn_lt bytes offset
  have h1 := byteIn_lt bytes (offset + 1)
  have h2 := byteIn_lt bytes (offset + 2)
  have h3 := byteIn_lt bytes (offset + 3)
  rw [wordIn, Nat.toUInt32_eq, UInt32.toNat_ofNat']
  omega

/-- A pixel counts its lower byte first. -/
theorem toNat_pixelIn (bytes : Array UInt8) (offset : Nat) :
    (pixelIn bytes offset).toNat =
      byteIn bytes offset + byteIn bytes (offset + 1) * 256 := by
  have h0 := byteIn_lt bytes offset
  have h1 := byteIn_lt bytes (offset + 1)
  rw [pixelIn, Nat.toUInt16_eq, UInt16.toNat_ofNat']
  omega

/-- The bytes of a word are those that it was read from. -/
theorem byteOfWord_wordIn (bytes : Array UInt8) (offset : Nat) {i : Nat} (hi : i < 4) :
    byteOfWord (wordIn bytes offset) i = bytes.getD (offset + i) 0 := by
  have h0 := byteIn_lt bytes offset
  have h1 := byteIn_lt bytes (offset + 1)
  have h2 := byteIn_lt bytes (offset + 2)
  have h3 := byteIn_lt bytes (offset + 3)
  have hbyte : (wordIn bytes offset).toNat / Nat.pow 256 i % 256 = byteIn bytes (offset + i) := by
    rw [toNat_wordIn]
    obtain rfl | rfl | rfl | rfl : i = 0 ∨ i = 1 ∨ i = 2 ∨ i = 3 := by omega
    · rw [show Nat.pow 256 0 = 1 from rfl, Nat.div_one, show offset + 0 = offset from rfl]
      omega
    · rw [show Nat.pow 256 1 = 256 from rfl]
      omega
    · rw [show Nat.pow 256 2 = 65536 from rfl]
      omega
    · rw [show Nat.pow 256 3 = 16777216 from rfl]
      omega
  rw [← UInt8.toNat_inj, toNat_byteOfWord, hbyte, byteIn]

/-- The bytes of a pixel are those that it was read from. -/
theorem byteOfPixel_pixelIn (bytes : Array UInt8) (offset : Nat) {i : Nat} (hi : i < 2) :
    byteOfPixel (pixelIn bytes offset) i = bytes.getD (offset + i) 0 := by
  have h0 := byteIn_lt bytes offset
  have h1 := byteIn_lt bytes (offset + 1)
  have hbyte : (pixelIn bytes offset).toNat / Nat.pow 256 i % 256 =
      byteIn bytes (offset + i) := by
    rw [toNat_pixelIn]
    obtain rfl | rfl : i = 0 ∨ i = 1 := by omega
    · rw [show Nat.pow 256 0 = 1 from rfl, Nat.div_one, show offset + 0 = offset from rfl]
      omega
    · rw [show Nat.pow 256 1 = 256 from rfl]
      omega
  rw [← UInt8.toNat_inj, toNat_byteOfPixel, hbyte, byteIn]

/-- Consecutive bytes of an array are a piece of its list. -/
theorem map_getD_range {bytes : Array UInt8} {offset count : Nat}
    (hinside : offset + count ≤ bytes.size) :
    ((List.range count).map fun i => bytes.getD (offset + i) 0) =
      (bytes.toList.drop offset).take count := by
  apply List.ext_getElem
  · simp only [List.length_map, List.length_range, List.length_take, List.length_drop,
      Array.length_toList]
    omega
  · intro i hi _
    rw [List.length_map, List.length_range] at hi
    have hlt : offset + i < bytes.size := by omega
    simp [Array.getD, hlt]

/-- The four bytes from an offset on are those of the word that is read there. -/
theorem wordBytes_wordIn {bytes : Array UInt8} {offset : Nat}
    (hinside : offset + 4 ≤ bytes.size) :
    wordBytes (wordIn bytes offset) = (bytes.toList.drop offset).take 4 := by
  rw [← map_getD_range hinside, wordBytes]
  exact List.map_congr_left fun i hi => byteOfWord_wordIn bytes offset (List.mem_range.mp hi)

/-- The two bytes from an offset on are those of the pixel that is read there. -/
theorem pixelBytes_pixelIn {bytes : Array UInt8} {offset : Nat}
    (hinside : offset + 2 ≤ bytes.size) :
    pixelBytes (pixelIn bytes offset) = (bytes.toList.drop offset).take 2 := by
  rw [← map_getD_range hinside, pixelBytes]
  exact List.map_congr_left fun i hi => byteOfPixel_pixelIn bytes offset (List.mem_range.mp hi)

/-! ## Pieces in a row -/

/-- Consecutive pieces of one width are one piece. -/
theorem flatMap_ofFn_of_pieces {α : Type} {bytesOf : α → List UInt8} {bytes : List UInt8}
    {offset width count : Nat} {values : Fin count → α}
    (hpiece : ∀ i, bytesOf (values i) = (bytes.drop (offset + i.val * width)).take width) :
    (List.ofFn values).flatMap bytesOf = (bytes.drop offset).take (count * width) := by
  -- The rest of the pieces starts one width further on, so the offset varies in the induction.
  induction count generalizing offset with
  | zero => simp
  | succ count ih =>
      have hfirst : bytesOf (values 0) = (bytes.drop offset).take width := by
        simpa using hpiece 0
      have hrest (i : Fin count) : bytesOf (values i.succ) =
          (bytes.drop (offset + width + i.val * width)).take width := by
        rw [hpiece i.succ, Fin.val_succ, Nat.succ_mul, Nat.add_comm (i.val * width), Nat.add_assoc]
      rw [List.ofFn_succ, List.flatMap_cons, hfirst, ih hrest, Nat.succ_mul,
        Nat.add_comm (count * width), List.take_add, List.drop_drop]

namespace Record

/-! ## Writing what was read -/

variable {record : Record} {bytes : Array UInt8} {pixels : Nat}

/-- What is known of bytes that a record is read from, and of the record. -/
theorem ofBytes_eq_ok (hread : ofBytes bytes pixels = .ok record) :
    wordIn bytes 0 = Freeze.version ∧ recordSize pixels ≤ bytes.size ∧
      record =
        { version := wordIn bytes 0
          status := wordIn bytes 4
          control := Vector.ofFn fun slot => wordIn bytes (8 + slot.val * 4)
          pixels := Array.ofFn fun pixel : Fin pixels =>
            pixelIn bytes (headerSize + pixel.val * 2) } := by
  unfold ofBytes at hread
  split at hread
  · cases hread
  · split at hread
    · cases hread
    · next hversion =>
      split at hread
      · cases hread
      · next hsize =>
        cases hread
        exact ⟨Decidable.not_not.mp hversion, Nat.le_of_not_lt hsize, rfl⟩

/-- Only records of the present version are read. -/
theorem version_of_ofBytes (hread : ofBytes bytes pixels = .ok record) :
    record.version = Freeze.version := by
  obtain ⟨hversion, _, hrecord⟩ := ofBytes_eq_ok hread
  rw [hrecord]
  exact hversion

/-- As many pixels are read as were asked for. -/
theorem size_pixels_of_ofBytes (hread : ofBytes bytes pixels = .ok record) :
    record.pixels.size = pixels := by
  rw [(ofBytes_eq_ok hread).2.2]
  exact Array.size_ofFn

/-- The fields of a record that was read are the bytes that it was read from. -/
theorem layout_of_ofBytes (hread : ofBytes bytes pixels = .ok record) :
    record.layout = bytes.toList.take (recordSize pixels) := by
  obtain ⟨_, hsize, hrecord⟩ := ofBytes_eq_ok hread
  simp only [recordSize, headerSize, controlSlots] at hsize
  have hversion : wordBytes record.version = (bytes.toList.drop 0).take 4 := by
    rw [hrecord]
    exact wordBytes_wordIn (by omega)
  have hstatus : wordBytes record.status = (bytes.toList.drop 4).take 4 := by
    rw [hrecord]
    exact wordBytes_wordIn (by omega)
  have hcontrol : record.controlBytes = (bytes.toList.drop 8).take (controlSlots * 4) := by
    rw [controlBytes, hrecord, Vector.toList_ofFn]
    exact flatMap_ofFn_of_pieces fun slot => wordBytes_wordIn (by
      have := slot.isLt
      simp only [controlSlots] at this
      omega)
  have himage : record.imageBytes = (bytes.toList.drop headerSize).take (pixels * 2) := by
    rw [imageBytes, hrecord, Array.toList_ofFn]
    exact flatMap_ofFn_of_pieces fun pixel => pixelBytes_pixelIn (by
      have := pixel.isLt
      simp only [headerSize, controlSlots]
      omega)
  have hpieces : recordSize pixels = 4 + (4 + (controlSlots * 4 + pixels * 2)) := by
    simp only [recordSize, headerSize]
    omega
  rw [layout, hversion, hstatus, hcontrol, himage, hpieces, List.take_add, List.take_add,
    List.take_add, List.drop_drop, List.drop_drop, List.drop_zero]
  rfl

/-- The bytes of a record that was read are those that it was read from. -/
theorem toBytes_of_ofBytes (hread : ofBytes bytes pixels = .ok record) :
    record.toBytes = bytes.extract 0 (recordSize pixels) := by
  rw [toBytes_eq_layout, layout_of_ofBytes hread]
  apply Array.toList_inj.mp
  simp

/-- A record is read from its own bytes, followed by anything, and from nothing else. -/
theorem ofBytes_eq_ok_iff :
    ofBytes bytes pixels = .ok record ↔
      record.version = Freeze.version ∧ record.pixels.size = pixels ∧
        ∃ rest, bytes = record.toBytes ++ rest := by
  constructor
  · intro hread
    refine ⟨version_of_ofBytes hread, size_pixels_of_ofBytes hread,
      bytes.extract (recordSize pixels), ?_⟩
    have hsize := (ofBytes_eq_ok hread).2.1
    rw [toBytes_of_ofBytes hread, Array.extract_append_extract, Nat.zero_min,
      Nat.max_eq_right hsize, Array.extract_size]
  · rintro ⟨hversion, rfl, rest, rfl⟩
    exact ofBytes_toBytes_append record rest hversion

/-! ## The codec -/

/-- A record of the right version is read back from its bytes, whatever follows them; a record that
was read has the bytes that it was read from; and writing a record to a buffer with room puts the
same bytes at the front, tells their number and keeps every byte behind them. -/
theorem codec_bijective (record : Record) (bytes rest buffer : Array UInt8) (pixels : Nat) :
    (record.version = Freeze.version →
        ofBytes (record.toBytes ++ rest) record.pixels.size = .ok record) ∧
      (ofBytes bytes pixels = .ok record →
        record.toBytes.size = recordSize pixels ∧
          record.toBytes = bytes.extract 0 (recordSize pixels)) ∧
      (recordSize record.pixels.size ≤ buffer.size →
        ∃ written, record.write buffer = .ok (record.toBytes.size, written) ∧
          written.size = buffer.size ∧
          written.extract 0 record.toBytes.size = record.toBytes ∧
          ∀ offset, record.toBytes.size ≤ offset → written[offset]? = buffer[offset]?) := by
  refine ⟨ofBytes_toBytes_append record rest, fun hread => ?_, fun hfits => ?_⟩
  · refine ⟨?_, toBytes_of_ofBytes hread⟩
    rw [size_toBytes, size, size_pixels_of_ofBytes hread]
  · have hfits : record.size ≤ buffer.size := hfits
    refine ⟨record.toBytes ++ buffer.extract record.size, ?_, ?_, ?_, fun offset hbehind => ?_⟩
    · rw [write_of_fits record hfits, size_toBytes]
    · rw [Array.size_append, Array.size_extract, size_toBytes]
      omega
    · rw [Array.extract_append_left, Array.extract_size]
    · rw [Array.getElem?_append_right hbehind, Array.getElem?_extract, size_toBytes]
      rw [size_toBytes] at hbehind
      by_cases hinside : offset < buffer.size
      · rw [if_pos (by omega), Nat.add_sub_cancel' hbehind]
      · rw [if_neg (by omega), Array.getElem?_eq_none (by omega)]

/-- A record of two pixels that differ in both bytes, with a byte behind it, and a buffer with more
room than it needs. -/
theorem codec_bijective_two_pixels :
    let record : Record :=
      { version := 1
        status := 0x14802000
        control := (Vector.replicate controlSlots 0).set 8 0x08000001
        pixels := #[0xBEEF, 0x1234] }
    let rest : Array UInt8 := #[0xAA]
    let bytes := record.toBytes ++ rest
    let buffer : Array UInt8 := Array.replicate 1040 0xFF
    record.version = Freeze.version ∧ ofBytes bytes 2 = .ok record ∧
      recordSize record.pixels.size ≤ buffer.size ∧
      record.toBytes = bytes.extract 0 (recordSize 2) ∧
      ∃ written, record.write buffer = .ok (record.toBytes.size, written) ∧
        written.size = buffer.size ∧
        written.extract 0 record.toBytes.size = record.toBytes ∧
        ∀ offset, record.toBytes.size ≤ offset → written[offset]? = buffer[offset]? := by
  intro record rest bytes buffer
  obtain ⟨hback, hread, hwrite⟩ := codec_bijective record bytes rest buffer 2
  have hsize : recordSize record.pixels.size ≤ buffer.size := by
    rw [Array.size_replicate]
    decide
  exact ⟨rfl, hback rfl, hsize, (hread (hback rfl)).2, hwrite hsize⟩

end Record

end GpuCore.Freeze
