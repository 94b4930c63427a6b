import GpuCore.Fault
import GpuCore.Gpu

/-!
# Freeze records

A freeze record holds the state that a host embeds in its own saved states.  All numbers are
little-endian: the version, the status word, the 256 control slots and the pixels of video
memory.

Main definitions:

- `Freeze.Record` and `Freeze.recordSize`.
- `Record.encode`: filling a buffer with a record, field by field.
- `Record.toBytes`, `Record.write` and `Record.ofBytes`.

Main results:

- `Record.size_toBytes`: records have the announced size.
-/

namespace GpuCore.Freeze

/-! ## Little-endian numbers -/

/-- Byte number `index` of a word, the lowest one first. -/
def byteOfWord (word : UInt32) (index : Nat) : UInt8 :=
  (word.toNat / Nat.pow 256 index).toUInt8

/-- Byte number `index` of a pixel, the lower one first. -/
def byteOfPixel (pixel : UInt16) (index : Nat) : UInt8 :=
  (pixel.toNat / Nat.pow 256 index).toUInt8

/-- The bytes of a word. -/
def wordBytes (word : UInt32) : List UInt8 :=
  (List.range 4).map (byteOfWord word)

/-- The bytes of a pixel. -/
def pixelBytes (pixel : UInt16) : List UInt8 :=
  (List.range 2).map (byteOfPixel pixel)

/-- The byte at an offset, zero behind the end. -/
def byteIn (bytes : Array UInt8) (offset : Nat) : Nat :=
  (bytes.getD offset 0).toNat

/-- The word at an offset. -/
def wordIn (bytes : Array UInt8) (offset : Nat) : UInt32 :=
  (byteIn bytes offset + byteIn bytes (offset + 1) * 256 + byteIn bytes (offset + 2) * 65536 +
    byteIn bytes (offset + 3) * 16777216).toUInt32

/-- The pixel at an offset. -/
def pixelIn (bytes : Array UInt8) (offset : Nat) : UInt16 :=
  (byteIn bytes offset + byteIn bytes (offset + 1) * 256).toUInt16

/-! ## Layout -/

/-- The version that is written and accepted. -/
def version : UInt32 := 1

/-- Bytes in front of the pixels. -/
def headerSize : Nat := 8 + controlSlots * 4

/-- Bytes of a record with so many pixels. -/
def recordSize (pixels : Nat) : Nat :=
  headerSize + pixels * 2

/-- The saved state. -/
structure Record where
  version : UInt32
  status : UInt32
  control : Vector UInt32 controlSlots
  pixels : Array UInt16
deriving DecidableEq, Inhabited

namespace Record

/-- Bytes of the record. -/
def size (record : Record) : Nat :=
  recordSize record.pixels.size

/-! ## Writing and reading -/

/-- Overwrite bytes from an offset on. -/
def copyAt (bytes : Array UInt8) (offset : Nat) : List UInt8 → Array UInt8
  | [] => bytes
  | byte :: rest => copyAt (bytes.setIfInBounds offset byte) (offset + 1) rest

/-- Overwrite bytes from an offset on with chunks that follow each other. -/
def copyChunks (bytes : Array UInt8) (offset : Nat) : List (List UInt8) → Array UInt8
  | [] => bytes
  | chunk :: chunks => copyChunks (copyAt bytes offset chunk) (offset + chunk.length) chunks

/-- Fill a buffer of exactly the size of the record. -/
def encode (record : Record) (bytes : Array UInt8) : Array UInt8 :=
  let bytes := copyAt bytes 0 (wordBytes record.version)
  let bytes := copyAt bytes 4 (wordBytes record.status)
  let bytes := copyChunks bytes 8 (record.control.toList.map wordBytes)
  copyChunks bytes headerSize (record.pixels.toList.map pixelBytes)

/-- The bytes of a record. -/
def toBytes (record : Record) : Array UInt8 :=
  record.encode (Array.replicate record.size 0)

/-- Write a record to the front of a buffer and keep what lies behind it: the number of bytes that
were written, and the buffer.  The buffer must have room for the record. -/
def write (record : Record) (buffer : Array UInt8) : Except Fault (Nat × Array UInt8) :=
  if record.size ≤ buffer.size then
    .ok (record.size, record.encode (buffer.extract 0 record.size) ++ buffer.extract record.size)
  else
    .error (.bufferSize record.size buffer.size)

/-- The buffer that writing a record leaves. -/
def writeTo (record : Record) (buffer : Array UInt8) : Except Fault (Array UInt8) :=
  (record.write buffer).map Prod.snd

/-- The record with so many pixels at the front of a buffer.  The version is checked before the
size, so that a foreign record is reported as such. -/
def ofBytes (bytes : Array UInt8) (pixels : Nat) : Except Fault Record :=
  if bytes.size < 8 then
    .error (.bufferSize (recordSize pixels) bytes.size)
  else if wordIn bytes 0 ≠ Freeze.version then
    .error (.incompatibleRecord Freeze.version (wordIn bytes 0))
  else if bytes.size < recordSize pixels then
    .error (.bufferSize (recordSize pixels) bytes.size)
  else
    .ok
      { version := wordIn bytes 0
        status := wordIn bytes 4
        control := Vector.ofFn fun slot => wordIn bytes (8 + slot.val * 4)
        pixels := Array.ofFn fun pixel : Fin pixels =>
          pixelIn bytes (headerSize + pixel.val * 2) }

/-! ## Sizes -/

@[simp]
theorem size_copyAt (bytes : Array UInt8) (offset : Nat) (new : List UInt8) :
    (copyAt bytes offset new).size = bytes.size := by
  induction new generalizing bytes offset with
  | nil => rfl
  | cons byte rest ih => rw [copyAt, ih, Array.size_setIfInBounds]

@[simp]
theorem size_copyChunks (bytes : Array UInt8) (offset : Nat) (chunks : List (List UInt8)) :
    (copyChunks bytes offset chunks).size = bytes.size := by
  induction chunks generalizing bytes offset with
  | nil => rfl
  | cons chunk chunks ih => rw [copyChunks, ih, size_copyAt]

/-- A record takes exactly its size in bytes. -/
@[simp]
theorem size_toBytes (record : Record) : record.toBytes.size = record.size := by
  simp [toBytes, encode]

end Record

end GpuCore.Freeze
