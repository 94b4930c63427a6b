/-!
# Variable-length numbers

Numbers up to 250 take one byte.  Larger ones take a marker byte that gives the width, and then
the number itself, little-endian, in two, four or eight bytes.  Writing picks the least width;
reading accepts any width that the reader allows.

Main definitions:

- `littleEndian` and `ofLittleEndian`: numbers of a fixed width.
- `Varint.encode` and `Varint.decode?`.
- `zigzag` and `unzigzag`: signed numbers as unsigned ones, small ones as small ones.

Main results:

- `ofLittleEndian_littleEndian`: fixed-width numbers are read back.
- `Varint.decode?_encode`: numbers are read back, whatever follows them.
- `unzigzag_zigzag`: signed numbers are read back.
-/

namespace GpuCore.Snapshot

/-! ## Fixed width -/

/-- The lowest `width` bytes of a number, the lowest one first. -/
def littleEndian : (width value : Nat) → List UInt8
  | 0, _ => []
  | width + 1, value => value.toUInt8 :: littleEndian width (value / 256)

/-- The number that bytes stand for, the lowest one first. -/
def ofLittleEndian : List UInt8 → Nat
  | [] => 0
  | byte :: bytes => byte.toNat + ofLittleEndian bytes * 256

/-- A number takes as many bytes as its width says. -/
@[simp]
theorem length_littleEndian (width value : Nat) : (littleEndian width value).length = width := by
  induction width generalizing value with
  | zero => rfl
  | succ width ih => simp [littleEndian, ih]

/-- Bytes of sufficient width stand for the number they were made of. -/
theorem ofLittleEndian_littleEndian {width value : Nat} (h : value < Nat.pow 256 width) :
    ofLittleEndian (littleEndian width value) = value := by
  induction width generalizing value with
  | zero => simp [littleEndian, ofLittleEndian] at *; omega
  | succ width ih =>
    have hrest : value / 256 < Nat.pow 256 width := by
      rw [Nat.div_lt_iff_lt_mul (by omega)]
      exact h
    simp only [littleEndian, ofLittleEndian, ih hrest, Nat.toUInt8_eq, UInt8.toNat_ofNat']
    omega

/-- The first `count` bytes and the bytes behind them; `none` if there are fewer. -/
def takeBytes? (count : Nat) (bytes : List UInt8) : Option (List UInt8 × List UInt8) :=
  if count ≤ bytes.length then some (bytes.take count, bytes.drop count) else none

/-- Bytes in front of others are taken back by their number. -/
theorem takeBytes?_append {count : Nat} {front rest : List UInt8} (h : front.length = count) :
    takeBytes? count (front ++ rest) = some (front, rest) := by
  subst h
  simp [takeBytes?]

/-! ## Variable width -/

namespace Varint

/-- The largest number that takes a single byte. -/
def singleByteMax : Nat := 250

/-- The bytes of a number below 2 to the 64th power. -/
def encode (value : Nat) : List UInt8 :=
  if value ≤ singleByteMax then [value.toUInt8]
  else if value < UInt16.size then 251 :: littleEndian 2 value
  else if value < UInt32.size then 252 :: littleEndian 4 value
  else 253 :: littleEndian 8 value

/-- The width that a marker byte announces. -/
def markerWidth? (marker : Nat) : Option Nat :=
  match marker with
  | 251 => some 2
  | 252 => some 4
  | 253 => some 8
  | _ => none

/-- A number of at most `widest` bytes, and the bytes behind it. -/
def decode? (widest : Nat) : List UInt8 → Option (Nat × List UInt8)
  | [] => none
  | first :: bytes =>
    if first.toNat ≤ singleByteMax then
      some (first.toNat, bytes)
    else do
      let width ← (markerWidth? first.toNat).filter (· ≤ widest)
      let (digits, bytes) ← takeBytes? width bytes
      return (ofLittleEndian digits, bytes)

/-- A number is read back from its bytes, and what follows them is left. -/
theorem decode?_encode {widest value : Nat} (rest : List UInt8)
    (hwidest :
      2 ≤ widest ∧ (UInt16.size ≤ value → 4 ≤ widest) ∧ (UInt32.size ≤ value → 8 ≤ widest))
    (hvalue : value < UInt64.size) :
    decode? widest (encode value ++ rest) = some (value, rest) := by
  obtain ⟨h2, h4, h8⟩ := hwidest
  unfold encode
  split
  · next h =>
    have hbyte : value.toUInt8.toNat = value := by
      simp [singleByteMax] at h
      simp
      omega
    simp [decode?, hbyte, h]
  · split
    · next h =>
      simp [decode?, singleByteMax, markerWidth?, h2, Option.filter,
        takeBytes?_append (length_littleEndian 2 value),
        ofLittleEndian_littleEndian (show value < Nat.pow 256 2 from h)]
    · split
      · next h =>
        simp [decode?, singleByteMax, markerWidth?, h4 (by omega), Option.filter,
          takeBytes?_append (length_littleEndian 4 value),
          ofLittleEndian_littleEndian (show value < Nat.pow 256 4 from h)]
      · next h =>
        simp [decode?, singleByteMax, markerWidth?, h8 (by omega), Option.filter,
          takeBytes?_append (length_littleEndian 8 value),
          ofLittleEndian_littleEndian (show value < Nat.pow 256 8 from hvalue)]

end Varint

/-! ## Signed numbers -/

/-- Numbers from zero up take the even places and negative ones the odd places. -/
def zigzag (value : Int) : Nat :=
  if 0 ≤ value then 2 * value.toNat else 2 * (-value - 1).toNat + 1

/-- The signed number at a place. -/
def unzigzag (place : Nat) : Int :=
  if place % 2 = 0 then (place / 2 : Nat) else -((place / 2 : Nat) : Int) - 1

/-- Every signed number is found at its place. -/
@[simp]
theorem unzigzag_zigzag (value : Int) : unzigzag (zigzag value) = value := by
  unfold zigzag unzigzag
  split <;> split <;> omega

end GpuCore.Snapshot
