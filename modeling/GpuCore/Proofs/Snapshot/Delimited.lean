import GpuCore.Snapshot.File

/-!
# Bytes that end by themselves

A reader of a format without separators has to find the end of every field in the field itself.
The bytes of a value are delimited when the reader takes them whatever follows, and takes nothing
when one of them is missing.  Readers in sequence delimit their bytes in sequence, so that a record
of such fields is delimited, and cutting it off anywhere is noticed.

Main definitions:

- `Delimited`: the bytes of a value, as one reader takes them.

Main results:

- `Delimited.bind`: fields that follow each other.
- `delimited_varint`, `delimited_encodeBytes`: numbers of variable length, and bytes preceded by
  their number.
-/

namespace GpuCore.Snapshot

/-! ## Readers -/

/-- The reader takes `bytes` as `value` whatever follows them, and takes nothing when they are cut
off. -/
structure Delimited {α : Type} (read : List UInt8 → Option (α × List UInt8)) (bytes : List UInt8)
    (value : α) : Prop where
  reads : ∀ rest, read (bytes ++ rest) = some (value, rest)
  cut : ∀ count < bytes.length, read (bytes.take count) = none

namespace Delimited

variable {α β : Type} {read : List UInt8 → Option (α × List UInt8)} {bytes : List UInt8} {value : α}

/-- A reader that takes no byte has none to miss. -/
theorem pure (value : α) : Delimited (fun bytes => some (value, bytes)) [] value where
  reads _ := rfl
  cut _ hcount := absurd hcount (Nat.not_lt_zero _)

/-- What a value is turned into does not matter to its bytes. -/
theorem map (h : Delimited read bytes value) (f : α → β) :
    Delimited (fun bytes => (read bytes).map (Prod.map f id)) bytes (f value) where
  reads rest := by
    rw [h.reads rest]
    rfl
  cut count hcount := by
    rw [h.cut count hcount]
    rfl

/-- A reader that goes on behind the bytes of another one delimits the bytes of both.  A cut in the
front leaves the first reader without a value; a cut behind it leaves the front whole. -/
theorem bind {next : α × List UInt8 → Option (β × List UInt8)} {back : List UInt8} {result : β}
    (hfront : Delimited read bytes value)
    (hback : Delimited (fun bytes => next (value, bytes)) back result) :
    Delimited (fun bytes => (read bytes).bind next) (bytes ++ back) result where
  reads rest := by
    rw [List.append_assoc, hfront.reads (back ++ rest), Option.bind_some]
    exact hback.reads rest
  cut count hcount := by
    rw [List.length_append] at hcount
    by_cases hinside : count < bytes.length
    · rw [List.take_append_of_le_length (Nat.le_of_lt hinside), hfront.cut count hinside,
        Option.bind_none]
    · have hwhole : (bytes ++ back).take count = bytes ++ back.take (count - bytes.length) := by
        rw [List.take_append, List.take_of_length_le (Nat.le_of_not_lt hinside)]
      rw [hwhole, hfront.reads, Option.bind_some]
      exact hback.cut (count - bytes.length) (by omega)

/-- The last field of a record is followed by none of its bytes. -/
theorem last {next : α × List UInt8 → Option (β × List UInt8)} {result : β}
    (hfront : Delimited read bytes value)
    (hnext : ∀ rest, next (value, rest) = some (result, rest)) :
    Delimited (fun bytes => (read bytes).bind next) bytes result := by
  have hback : Delimited (fun bytes => next (value, bytes)) [] result := by
    rw [funext hnext]
    exact .pure result
  have hboth := hfront.bind hback
  rwa [List.append_nil] at hboth

end Delimited

/-! ## Numbers -/

/-- Too few bytes are not taken. -/
theorem takeBytes?_of_lt {count : Nat} {bytes : List UInt8} (h : bytes.length < count) :
    takeBytes? count bytes = none :=
  if_neg (Nat.not_le_of_lt h)

/-- Bytes are delimited when their number is known. -/
theorem delimited_takeBytes (bytes : List UInt8) :
    Delimited (takeBytes? bytes.length) bytes bytes where
  reads rest := takeBytes?_append rfl
  cut count hcount := by
    apply takeBytes?_of_lt
    rw [List.length_take]
    omega

namespace Varint

/-- A marker with fewer bytes behind it than it announces is not taken, whichever widths are
allowed. -/
theorem decode?_of_missing {marker : UInt8} {width : Nat}
    (hmarker : markerWidth? marker.toNat = some width) {digits : List UInt8}
    (hmissing : digits.length < width) (widest : Nat) :
    decode? widest (marker :: digits) = none := by
  have hlarge : ¬ marker.toNat ≤ singleByteMax := by
    intro hsmall
    rw [singleByteMax] at hsmall
    unfold markerWidth? at hmarker
    split at hmarker <;> first | omega | cases hmarker
  rw [decode?, if_neg hlarge, hmarker, Option.filter_some]
  split
  · exact congrArg (Option.bind · _) (takeBytes?_of_lt hmissing)
  · rfl

/-- A number takes one byte, or a marker and the digits that the marker announces. -/
theorem encode_cases (value : Nat) :
    encode value = [value.toUInt8] ∨ ∃ (marker : UInt8) (width : Nat),
      markerWidth? marker.toNat = some width ∧
        encode value = marker :: littleEndian width value := by
  unfold encode
  split
  · exact .inl rfl
  · split
    · exact .inr ⟨251, 2, rfl, rfl⟩
    · split
      · exact .inr ⟨252, 4, rfl, rfl⟩
      · exact .inr ⟨253, 8, rfl, rfl⟩

/-- The bytes of a number are not taken when one of them is missing. -/
theorem decode?_take_encode {value count : Nat} (hcount : count < (encode value).length)
    (widest : Nat) : decode? widest ((encode value).take count) = none := by
  cases count with
  | zero => rfl
  | succ count =>
      obtain hsingle | ⟨marker, width, hmarker, hmarked⟩ := encode_cases value
      · rw [hsingle] at hcount
        exact absurd (Nat.lt_of_succ_lt_succ hcount) (Nat.not_lt_zero count)
      · rw [hmarked, List.length_cons, length_littleEndian] at hcount
        rw [hmarked, List.take_succ_cons]
        refine decode?_of_missing hmarker ?_ widest
        rw [List.length_take, length_littleEndian]
        omega

end Varint

/-- A number that the reader's widths can hold is delimited. -/
theorem delimited_varint {widest value : Nat}
    (hwidest :
      2 ≤ widest ∧ (UInt16.size ≤ value → 4 ≤ widest) ∧ (UInt32.size ≤ value → 8 ≤ widest))
    (hvalue : value < UInt64.size) :
    Delimited (Varint.decode? widest) (Varint.encode value) value where
  reads rest := Varint.decode?_encode rest hwidest hvalue
  cut _ hcount := Varint.decode?_take_encode hcount widest

/-! ## Bytes -/

/-- Bytes preceded by their number are delimited. -/
theorem delimited_encodeBytes {bytes : List UInt8} (hbytes : bytes.length < UInt64.size) :
    Delimited decodeBytes? (encodeBytes bytes) bytes := by
  have hnumber : Delimited (Varint.decode? 8) (Varint.encode bytes.length) bytes.length :=
    delimited_varint ⟨by decide, fun _ => by decide, fun _ => Nat.le_refl 8⟩ hbytes
  exact hnumber.bind (delimited_takeBytes bytes)

end GpuCore.Snapshot
