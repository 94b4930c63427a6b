import GpuCore.Proofs.Calendar.Timestamp
import GpuCore.Proofs.Snapshot.Delimited

/-!
# Snapshot files are read back

The fields of a snapshot file are delimited one after the other, so that the file as a whole is: it
is read back whatever follows it, and no part of it that lacks a byte passes for a file.  Its
version is looked at when all of it was read, so that a file of another version is told from a
damaged one.

Main results:

- `delimited_decodeInstant`: the timestamp in a file.
- `delimited_encode`: the whole file.
- `load_encode_append`: what loading a file gives, and what loading a part of it.
-/

namespace GpuCore.Snapshot

open GpuCore.Calendar (Instant)

/-! ## Text -/

theorem toList_loop_eq (bytes : ByteArray) (index : Nat) (front : List UInt8) :
    ByteArray.toList.loop bytes index front = front.reverse ++ bytes.data.toList.drop index := by
  induction index, front using ByteArray.toList.loop.induct bytes with
  | case1 index front hindex ih =>
      have hdata : index < bytes.data.toList.length := hindex
      have hbyte : bytes.get! index = bytes.data.toList[index] :=
        getElem!_pos bytes.data index hindex
      rw [ByteArray.toList.loop, if_pos hindex, ih, List.drop_eq_getElem_cons hdata, hbyte,
        List.reverse_cons, List.append_assoc, List.singleton_append]
  | case2 index front hindex =>
      have hdata : bytes.data.toList.length ≤ index := Nat.le_of_not_lt hindex
      rw [ByteArray.toList.loop, if_neg hindex, List.drop_of_length_le hdata, List.append_nil]

theorem toList_eq (bytes : ByteArray) : bytes.toList = bytes.data.toList := by
  rw [ByteArray.toList, toList_loop_eq]
  rfl

/-- The bytes of a text are read as that text. -/
theorem fromUTF8?_toList_toUTF8 (text : String) :
    String.fromUTF8? ⟨text.toUTF8.toList.toArray⟩ = some text := by
  rw [toList_eq]
  exact dif_pos text.isValidUTF8

/-- A character takes at most four bytes. -/
theorem utf8ByteSize_le (text : List Char) :
    (String.ofList text).utf8ByteSize ≤ 4 * text.length := by
  induction text with
  | nil => decide
  | cons c text ih =>
      have hfirst := c.utf8Size_le_four
      have hsplit : String.ofList (c :: text) = String.singleton c ++ String.ofList text := by
        rw [String.singleton_eq_ofList, ← String.ofList_append, List.singleton_append]
      rw [hsplit, String.utf8ByteSize_append, String.utf8ByteSize_singleton, List.length_cons]
      omega

theorem length_toUTF8_le (text : String) : text.toUTF8.toList.length ≤ 4 * text.toList.length := by
  have hsize := utf8ByteSize_le text.toList
  rw [String.ofList_toList] at hsize
  rw [toList_eq]
  exact hsize

/-! ## Fields -/

/-- A number of 32 bits is delimited. -/
theorem delimited_decodeWord (word : UInt32) :
    Delimited decodeWord? (Varint.encode word.toNat) word := by
  have hword := word.toNat_lt
  have hnumber : Delimited (Varint.decode? 4) (Varint.encode word.toNat) word.toNat := by
    refine delimited_varint ⟨by decide, fun _ => Nat.le_refl 4, fun hlarge => ?_⟩ ?_
    · exact absurd hlarge (Nat.not_le_of_lt hword)
    · exact Nat.lt_trans hword (by decide)
  have hmapped := hnumber.map Nat.toUInt32
  rwa [Nat.toUInt32, UInt32.ofNat_toNat] at hmapped

/-- The place of a slot is a number of 32 bits. -/
theorem zigzag_lt (slot : Int32) : zigzag slot.toInt < UInt32.size := by
  have hleast := slot.le_toInt
  have hmost := slot.toInt_lt
  change zigzag slot.toInt < 4294967296
  unfold zigzag
  split <;> omega

/-- A truth value is delimited. -/
theorem delimited_decodeBool (value : Bool) :
    Delimited decodeBool? [if value then 1 else 0] value where
  reads rest := by cases value <;> rfl
  cut count hcount := by
    rw [Nat.lt_one_iff.1 hcount]
    rfl

/-- The timestamp of an instant that is read back is delimited. -/
theorem delimited_decodeInstant {instant : Instant}
    (hinstant : Instant.parse? instant.render = some instant) :
    Delimited decodeInstant? (encodeBytes instant.render.toUTF8.toList) instant := by
  have hshort : instant.render.toUTF8.toList.length < UInt64.size := by
    have hchars := (Instant.isWellFormed_of_parse? hinstant).length_render_le
    have hbytes := length_toUTF8_le instant.render
    exact Nat.lt_of_le_of_lt (Nat.le_trans hbytes (Nat.mul_le_mul_left 4 hchars)) (by decide)
  refine (delimited_encodeBytes hshort).last fun rest => ?_
  simp only [fromUTF8?_toList_toUTF8, Option.bind_eq_bind, Option.bind_some, hinstant]
  rfl

/-! ## Files -/

/-- The file of a snapshot is delimited, field by field. -/
theorem delimited_encode {snapshot : Snapshot}
    (htaken : Instant.parse? snapshot.taken.render = some snapshot.taken)
    (hrecord : snapshot.record.size < UInt64.size) :
    Delimited decode? snapshot.encode snapshot := by
  have hslot : (zigzag snapshot.slot.toInt).toUInt32.toNat = zigzag snapshot.slot.toInt :=
    UInt32.toNat_ofNat_of_lt' (zigzag_lt snapshot.slot)
  have hplace := delimited_decodeWord (zigzag snapshot.slot.toInt).toUInt32
  rw [hslot] at hplace
  refine (delimited_decodeWord snapshot.version).bind ?_
  refine (delimited_decodeInstant htaken).bind ?_
  refine hplace.bind ?_
  refine (delimited_decodeBool snapshot.doubledMemory).bind ?_
  refine (delimited_encodeBytes (by exact hrecord)).last fun rest => ?_
  rw [hslot, unzigzag_zigzag, Int32.ofInt_toInt]
  rfl

/-- A file that is followed by any bytes is the snapshot it was made of if it has the current
version, and otherwise one of another version; a file that lacks bytes at its end is none. -/
theorem load_encode_append {snapshot : Snapshot}
    (htaken : Instant.parse? snapshot.taken.render = some snapshot.taken)
    (hrecord : snapshot.record.size < UInt64.size) :
    (∀ rest, load (snapshot.encode ++ rest) =
      if snapshot.version = 1 then .ok snapshot
      else .error (.incompatibleVersion 1 snapshot.version)) ∧
      ∀ part, part <+: snapshot.encode → part ≠ snapshot.encode →
        load part = .error .malformed := by
  have hfile := delimited_encode htaken hrecord
  refine ⟨fun rest => ?whole, fun part hpart hcut => ?part⟩
  case whole =>
      unfold load
      rw [hfile.reads rest]
      rfl
  case part =>
      have hlength : part.length < snapshot.encode.length :=
        Nat.lt_of_le_of_ne hpart.length_le fun hsame => hcut (hpart.eq_of_length hsame)
      rw [List.prefix_iff_eq_take.1 hpart]
      unfold load
      rw [hfile.cut part.length hlength]

/-- A file of another version, taken in a leap second before the first year of the calendar. -/
theorem load_encode_append_leap_second :
    let snapshot : Snapshot :=
      { version := 999, taken := ⟨⟨-43, 3, 15⟩, 86399, 1500000000⟩, slot := -2,
        doubledMemory := true, record := #[1, 2, 3] }
    Instant.parse? snapshot.taken.render = some snapshot.taken ∧
      snapshot.record.size < UInt64.size ∧
        (∀ rest, load (snapshot.encode ++ rest) = .error (.incompatibleVersion 1 999)) ∧
          ∀ part, part <+: snapshot.encode → part ≠ snapshot.encode →
            load part = .error .malformed := by
  intro snapshot
  have htaken : Instant.parse? snapshot.taken.render = some snapshot.taken :=
    Instant.parse?_render ⟨by decide, by decide, by decide, fun _ => by decide⟩
  have hrecord : snapshot.record.size < UInt64.size := by decide
  exact ⟨htaken, hrecord, load_encode_append htaken hrecord⟩

end GpuCore.Snapshot
