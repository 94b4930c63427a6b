import GpuCore.Freeze.Record

/-!
# Reading back a freeze record

A record is written field by field into a buffer, and every field is read from its own bytes.  This
module shows that writing leaves the fields one after the other, whatever the buffer held, and that
the fields that are read from the bytes of a record are those of the record, whatever follows the
bytes.

Main definitions:

- `Freeze.Record.layout`: the fields of a record, one after the other.

Main results:

- `Freeze.wordIn_eq_of_bytes` and `Freeze.pixelIn_eq_of_bytes`: a number is read from its bytes.
- `Freeze.Record.encode_eq_layout`: what a buffer holds that was filled with a record.
- `Freeze.Record.ofBytes_toBytes_append`: a record is read back from the front of any buffer that
  starts with its bytes.
-/

namespace GpuCore.Freeze

/-! ## Numbers and their bytes -/

/-- The bytes of a word are its digits to base 256, the lowest one first. -/
theorem toNat_byteOfWord (word : UInt32) (index : Nat) :
    (byteOfWord word index).toNat = word.toNat / Nat.pow 256 index % 256 := by
  simp [byteOfWord]

/-- The two bytes of a pixel are its digits to base 256, the lower one first. -/
theorem toNat_byteOfPixel (pixel : UInt16) (index : Nat) :
    (byteOfPixel pixel index).toNat = pixel.toNat / Nat.pow 256 index % 256 := by
  simp [byteOfPixel]

/-- A word is read where its four bytes stand. -/
theorem wordIn_eq_of_bytes {bytes : Array UInt8} {offset : Nat} {word : UInt32}
    (hbytes : ∀ i < 4, bytes.getD (offset + i) 0 = byteOfWord word i) :
    wordIn bytes offset = word := by
  have hbyte (i : Nat) (hi : i < 4) :
      byteIn bytes (offset + i) = word.toNat / Nat.pow 256 i % 256 := by
    rw [byteIn, hbytes i hi, toNat_byteOfWord]
  have h0 : byteIn bytes offset = word.toNat % 256 := by simpa using hbyte 0 (by decide)
  have h1 : byteIn bytes (offset + 1) = word.toNat / 256 % 256 := hbyte 1 (by decide)
  have h2 : byteIn bytes (offset + 2) = word.toNat / 65536 % 256 := hbyte 2 (by decide)
  have h3 : byteIn bytes (offset + 3) = word.toNat / 16777216 % 256 := hbyte 3 (by decide)
  have hlt := word.toNat_lt
  have hsum : word.toNat % 256 + word.toNat / 256 % 256 * 256 +
      word.toNat / 65536 % 256 * 65536 + word.toNat / 16777216 % 256 * 16777216 =
        word.toNat := by
    omega
  rw [wordIn, h0, h1, h2, h3, hsum]
  exact UInt32.ofNat_toNat

/-- A pixel is read where its two bytes stand. -/
theorem pixelIn_eq_of_bytes {bytes : Array UInt8} {offset : Nat} {pixel : UInt16}
    (hbytes : ∀ i < 2, bytes.getD (offset + i) 0 = byteOfPixel pixel i) :
    pixelIn bytes offset = pixel := by
  have hbyte (i : Nat) (hi : i < 2) :
      byteIn bytes (offset + i) = pixel.toNat / Nat.pow 256 i % 256 := by
    rw [byteIn, hbytes i hi, toNat_byteOfPixel]
  have h0 : byteIn bytes offset = pixel.toNat % 256 := by simpa using hbyte 0 (by decide)
  have h1 : byteIn bytes (offset + 1) = pixel.toNat / 256 % 256 := hbyte 1 (by decide)
  have hlt := pixel.toNat_lt
  have hsum : pixel.toNat % 256 + pixel.toNat / 256 % 256 * 256 = pixel.toNat := by
    omega
  rw [pixelIn, h0, h1, hsum]
  exact UInt16.ofNat_toNat

@[simp]
theorem length_wordBytes (word : UInt32) : (wordBytes word).length = 4 := by
  simp [wordBytes]

@[simp]
theorem length_pixelBytes (pixel : UInt16) : (pixelBytes pixel).length = 2 := by
  simp [pixelBytes]

theorem getElem?_wordBytes (word : UInt32) {i : Nat} (hi : i < 4) :
    (wordBytes word)[i]? = some (byteOfWord word i) := by
  simp [wordBytes, hi]

theorem getElem?_pixelBytes (pixel : UInt16) {i : Nat} (hi : i < 2) :
    (pixelBytes pixel)[i]? = some (byteOfPixel pixel i) := by
  simp [pixelBytes, hi]

/-! ## Fields in a row -/

section Fields

variable {α : Type} {width : Nat} {bytesOf : α → List UInt8}

/-- Fields of one width take their number times the width. -/
theorem length_flatMap_of_width (hwidth : ∀ value, (bytesOf value).length = width)
    (values : List α) : (values.flatMap bytesOf).length = values.length * width := by
  simp [List.length_flatMap, hwidth, List.map_const', List.sum_replicate_nat]

/-- A field of one width starts at its number times the width. -/
theorem getElem?_flatMap_of_width (hwidth : ∀ value, (bytesOf value).length = width)
    (values : List α) (index : Nat) {i : Nat} (hi : i < width) :
    (values.flatMap bytesOf)[index * width + i]? =
      values[index]?.bind fun value => (bytesOf value)[i]? := by
  induction values generalizing index with
  | nil => rfl
  | cons value values ih =>
      rw [List.flatMap_cons]
      cases index with
      | zero =>
          rw [Nat.zero_mul, Nat.zero_add, List.getElem?_append_left (by rwa [hwidth])]
          rfl
      | succ index =>
          have hbehind : (index + 1) * width + i - width = index * width + i := by
            rw [Nat.succ_mul]
            omega
          rw [List.getElem?_append_right (by rw [hwidth, Nat.succ_mul]; omega), hwidth, hbehind, ih,
            List.getElem?_cons_succ]

end Fields

namespace Record

variable (record : Record)

/-! ## Filling a buffer -/

/-- Overwriting bytes inside a buffer keeps those around them. -/
theorem toList_copyAt {bytes : Array UInt8} {offset : Nat} {new : List UInt8}
    (hroom : offset + new.length ≤ bytes.size) :
    (copyAt bytes offset new).toList =
      bytes.toList.take offset ++ (new ++ bytes.toList.drop (offset + new.length)) := by
  induction new generalizing bytes offset with
  | nil => simp [copyAt]
  | cons byte rest ih =>
      have hoffset : offset < bytes.toList.length := by
        rw [List.length_cons] at hroom
        rw [Array.length_toList]
        omega
      have hrest : offset + 1 + rest.length ≤ (bytes.setIfInBounds offset byte).size := by
        rw [List.length_cons] at hroom
        rw [Array.size_setIfInBounds]
        omega
      have hfront : (bytes.toList.set offset byte).take (offset + 1) =
          bytes.toList.take offset ++ [byte] := by
        rw [List.take_add_one, List.take_set_of_le (Nat.le_refl offset),
          List.getElem?_set_self hoffset]
        rfl
      have hback : (bytes.toList.set offset byte).drop (offset + 1 + rest.length) =
          bytes.toList.drop (offset + (rest.length + 1)) := by
        rw [List.drop_set_of_lt (by omega)]
        congr 1
        omega
      rw [copyAt, ih hrest, Array.toList_setIfInBounds, hfront, hback, List.append_assoc]
      rfl

/-- Two pieces are written like one if the second follows where the first ends. -/
theorem copyAt_append (bytes : Array UInt8) (offset : Nat) (front back : List UInt8) :
    copyAt bytes offset (front ++ back) =
      copyAt (copyAt bytes offset front) (offset + front.length) back := by
  induction front generalizing bytes offset with
  | nil => rfl
  | cons byte front ih =>
      rw [List.cons_append, copyAt, ih, copyAt, List.length_cons, Nat.add_right_comm,
        Nat.add_assoc]

/-- Chunks that follow each other are written like one piece. -/
theorem copyChunks_eq (bytes : Array UInt8) (offset : Nat) (chunks : List (List UInt8)) :
    copyChunks bytes offset chunks = copyAt bytes offset chunks.flatten := by
  induction chunks generalizing bytes offset with
  | nil => rfl
  | cons chunk chunks ih => rw [copyChunks, ih, List.flatten_cons, copyAt_append]

/-! ## Layout -/

/-- The control slots of a record, one after the other. -/
def controlBytes : List UInt8 :=
  record.control.toList.flatMap wordBytes

/-- The pixels of a record, one after the other. -/
def imageBytes : List UInt8 :=
  record.pixels.toList.flatMap pixelBytes

/-- The fields of a record, one after the other. -/
def layout : List UInt8 :=
  wordBytes record.version ++ (wordBytes record.status ++
    (record.controlBytes ++ record.imageBytes))

@[simp]
theorem length_controlBytes : record.controlBytes.length = controlSlots * 4 := by
  rw [controlBytes, length_flatMap_of_width length_wordBytes, Vector.length_toList]

@[simp]
theorem length_imageBytes : record.imageBytes.length = record.pixels.size * 2 := by
  rw [imageBytes, length_flatMap_of_width length_pixelBytes, Array.length_toList]

@[simp]
theorem length_layout : record.layout.length = record.size := by
  simp only [layout, List.length_append, length_wordBytes, length_controlBytes, length_imageBytes,
    size, recordSize, headerSize]
  omega

/-- A buffer of the right size that is filled with a record holds its fields and nothing else. -/
theorem encode_eq_layout {bytes : Array UInt8} (hsize : bytes.size = record.size) :
    record.encode bytes = record.layout.toArray := by
  -- The four pieces are written where the pieces before them end.
  have hpieces : record.encode bytes = copyAt bytes 0 record.layout := by
    rw [layout, copyAt_append, copyAt_append, copyAt_append, length_wordBytes, length_wordBytes,
      length_controlBytes, encode, copyChunks_eq, copyChunks_eq, ← List.flatMap_def,
      ← List.flatMap_def]
    rfl
  have hend : 0 + record.layout.length = bytes.size := by
    rw [length_layout, hsize, Nat.zero_add]
  have hbehind : bytes.toList.drop (0 + record.layout.length) = [] := by
    rw [hend, ← Array.length_toList, List.drop_length]
  apply Array.toList_inj.mp
  rw [hpieces, toList_copyAt (Nat.le_of_eq hend), hbehind, List.append_nil]
  rfl

/-- The bytes of a record are its fields in a row. -/
theorem toBytes_eq_layout : record.toBytes = record.layout.toArray :=
  record.encode_eq_layout Array.size_replicate

/-- Writing to a buffer with room replaces its front by the bytes of the record. -/
theorem write_of_fits {buffer : Array UInt8} (hfits : record.size ≤ buffer.size) :
    record.write buffer = .ok (record.size, record.toBytes ++ buffer.extract record.size) := by
  have hfront : (buffer.extract 0 record.size).size = record.size := by
    rw [Array.size_extract]
    omega
  rw [write, if_pos hfits, encode_eq_layout record hfront, toBytes_eq_layout]

/-! ## Bytes of a field -/

variable {record} in
/-- A byte of the layout is found in every buffer that starts with the bytes of the record. -/
theorem getD_toBytes_append (rest : Array UInt8) {offset : Nat} {byte : UInt8}
    (hbyte : record.layout[offset]? = some byte) :
    (record.toBytes ++ rest).getD offset 0 = byte := by
  obtain ⟨hoffset, _⟩ := List.getElem?_eq_some_iff.mp hbyte
  have hlt : offset < record.layout.toArray.size := hoffset
  rw [Array.getD_eq_getD_getElem?, toBytes_eq_layout, Array.getElem?_append_left hlt,
    List.getElem?_toArray, hbyte]
  rfl

/-- The version stands in front. -/
theorem getElem?_layout_version {i : Nat} (hi : i < 4) :
    record.layout[i]? = some (byteOfWord record.version i) := by
  rw [layout, List.getElem?_append_left (by rwa [length_wordBytes]), getElem?_wordBytes _ hi]

/-- Behind the four bytes of the version, the status word is in front. -/
theorem getElem?_layout_behind_version (i : Nat) :
    record.layout[4 + i]? =
      (wordBytes record.status ++ (record.controlBytes ++ record.imageBytes))[i]? := by
  rw [layout, List.getElem?_append_right (by rw [length_wordBytes]; omega), length_wordBytes,
    Nat.add_sub_cancel_left]

/-- The status word stands behind the version. -/
theorem getElem?_layout_status {i : Nat} (hi : i < 4) :
    record.layout[4 + i]? = some (byteOfWord record.status i) := by
  rw [getElem?_layout_behind_version, List.getElem?_append_left (by rwa [length_wordBytes]),
    getElem?_wordBytes _ hi]

/-- Behind the eight bytes of version and status word, the control slots are in front. -/
theorem getElem?_layout_behind_status (i : Nat) :
    record.layout[8 + i]? = (record.controlBytes ++ record.imageBytes)[i]? := by
  rw [show 8 + i = 4 + (4 + i) by omega, getElem?_layout_behind_version,
    List.getElem?_append_right (by rw [length_wordBytes]; omega), length_wordBytes,
    Nat.add_sub_cancel_left]

/-- Every control slot stands at four times its number behind the status word. -/
theorem getElem?_layout_control {slot i : Nat} (hslot : slot < controlSlots) (hi : i < 4) :
    record.layout[8 + slot * 4 + i]? = some (byteOfWord record.control[slot] i) := by
  have hinside : slot * 4 + i < record.controlBytes.length := by
    rw [length_controlBytes]
    omega
  rw [Nat.add_assoc, getElem?_layout_behind_status, List.getElem?_append_left hinside, controlBytes,
    getElem?_flatMap_of_width length_wordBytes _ slot hi]
  simp [hslot, getElem?_wordBytes _ hi]

/-- Every pixel stands at twice its number behind the header. -/
theorem getElem?_layout_pixel {pixel i : Nat} (hpixel : pixel < record.pixels.size) (hi : i < 2) :
    record.layout[headerSize + pixel * 2 + i]? = some (byteOfPixel record.pixels[pixel] i) := by
  have hbehind : controlSlots * 4 + (pixel * 2 + i) - record.controlBytes.length =
      pixel * 2 + i := by
    rw [length_controlBytes, Nat.add_sub_cancel_left]
  rw [headerSize, Nat.add_assoc, Nat.add_assoc, getElem?_layout_behind_status,
    List.getElem?_append_right (by rw [length_controlBytes]; omega), hbehind, imageBytes,
    getElem?_flatMap_of_width length_pixelBytes _ pixel hi]
  simp [hpixel, getElem?_pixelBytes _ hi]

/-! ## Reading back -/

/-- The version is read back, whatever follows the record. -/
theorem wordIn_toBytes_version (rest : Array UInt8) :
    wordIn (record.toBytes ++ rest) 0 = record.version := by
  refine wordIn_eq_of_bytes fun i hi => getD_toBytes_append rest ?_
  rw [Nat.zero_add, getElem?_layout_version record hi]

/-- The status word is read back, whatever follows the record. -/
theorem wordIn_toBytes_status (rest : Array UInt8) :
    wordIn (record.toBytes ++ rest) 4 = record.status :=
  wordIn_eq_of_bytes fun _ hi => getD_toBytes_append rest (getElem?_layout_status record hi)

/-- Every control slot is read back from its own place. -/
theorem wordIn_toBytes_control (rest : Array UInt8) {slot : Nat} (hslot : slot < controlSlots) :
    wordIn (record.toBytes ++ rest) (8 + slot * 4) = record.control[slot] :=
  wordIn_eq_of_bytes fun _ hi => getD_toBytes_append rest (getElem?_layout_control record hslot hi)

/-- Every pixel is read back from its own place. -/
theorem pixelIn_toBytes (rest : Array UInt8) {pixel : Nat} (hpixel : pixel < record.pixels.size) :
    pixelIn (record.toBytes ++ rest) (headerSize + pixel * 2) = record.pixels[pixel] :=
  pixelIn_eq_of_bytes fun _ hi => getD_toBytes_append rest (getElem?_layout_pixel record hpixel hi)

/-- A record of the right version is read back from the front of any buffer that starts with its
bytes. -/
theorem ofBytes_toBytes_append (rest : Array UInt8) (hversion : record.version = Freeze.version) :
    ofBytes (record.toBytes ++ rest) record.pixels.size = .ok record := by
  have hsize : recordSize record.pixels.size ≤ (record.toBytes ++ rest).size := by
    simp [size]
  have hheader : 8 ≤ recordSize record.pixels.size := by
    simp only [recordSize, headerSize]
    omega
  have hcontrol : (Vector.ofFn fun slot : Fin controlSlots =>
      wordIn (record.toBytes ++ rest) (8 + slot.val * 4)) = record.control := by
    ext slot hslot
    rw [Vector.getElem_ofFn, wordIn_toBytes_control record rest hslot]
  have hpixels : (Array.ofFn fun pixel : Fin record.pixels.size =>
      pixelIn (record.toBytes ++ rest) (headerSize + pixel.val * 2)) = record.pixels := by
    apply Array.ext
    · simp
    · intro pixel _ hpixel
      rw [Array.getElem_ofFn, pixelIn_toBytes record rest hpixel]
  rw [ofBytes, if_neg (by omega), wordIn_toBytes_version, if_neg (by simp [hversion]),
    if_neg (by omega), wordIn_toBytes_status, hcontrol, hpixels]

end Record

end GpuCore.Freeze
