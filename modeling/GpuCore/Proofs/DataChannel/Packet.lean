import GpuCore.Gpu.DataChannel

/-!
# Packets of fixed length

A packet that is not a polyline is executed with its last word, whatever its words are; until then
the processor only collects.

Main results:

- `Assembler.push_pending`: one more word of a packet of fixed length.
- `Gpu.receiveAll_packet`: the words of such a packet are the packet.
- `Gpu.receiveAll_upload`, `Gpu.receiveAll_download` and `Gpu.receiveAll_move`: the commands that
  begin transfers and move images.
-/

namespace GpuCore

/-! ## Collecting -/

namespace Assembler

theorem eq_of_isIdle {assembler : Assembler} (hidle : assembler.isIdle = true) :
    assembler = {} := by
  have hpending : assembler.pending = #[] := Array.isEmpty_iff.1 hidle
  cases assembler
  cases hpending
  rfl

/-- Packets that are shorter than polylines do not end early. -/
theorem endsPolyline_of_lt {length : Nat} (hlength : length < Packet.flatPolyline) (index : Nat)
    (word : UInt32) : endsPolyline length index word = false := by
  have hflat : length ≠ Packet.flatPolyline := Nat.ne_of_lt hlength
  have hshaded : length ≠ Packet.shadedPolyline := by
    rw [Packet.flatPolyline] at hlength
    rw [Packet.shadedPolyline]
    omega
  simp [endsPolyline, hflat, hshaded]

/-- The first word of a packet of several words. -/
theorem push_first {word : UInt32} (hlong : 1 < Packet.length (Word.command word))
    (hfixed : Packet.length (Word.command word) < Packet.flatPolyline) :
    ({} : Assembler).push word = (none, ⟨#[word]⟩) := by
  have hpositive : Packet.length (Word.command word) ≠ 0 := by omega
  simp [push, hpositive, endsPolyline_of_lt hfixed, Nat.not_le_of_lt hlong]

/-- One more word of a packet of fixed length. -/
theorem push_pending {first : UInt32} (pending : List UInt32) (word : UInt32)
    (hlong : 1 < Packet.length (Word.command first))
    (hfixed : Packet.length (Word.command first) < Packet.flatPolyline) :
    push ⟨(first :: pending).toArray⟩ word =
      if Packet.length (Word.command first) ≤ pending.length + 2 then
        (some ⟨Word.command first, first :: (pending ++ [word])⟩, {})
      else
        (none, ⟨(first :: (pending ++ [word])).toArray⟩) := by
  have hpositive : Packet.length (Word.command first) ≠ 0 := by omega
  simp [push, opcode, hpositive, endsPolyline_of_lt hfixed]

end Assembler

/-! ## Executing -/

namespace Gpu

variable {gpu : Gpu} {first : UInt32}

/-- Without an upload in progress, words go to the packet assembler. -/
theorem receive_of_not_streaming (hstreaming : gpu.upload.streaming = false) (word : UInt32) :
    gpu.receive word = gpu.interpret word := by
  rw [receive, hstreaming, if_neg Bool.false_ne_true]

/-- One more word of a packet of fixed length is kept, or else the packet is executed. -/
theorem receive_pending (hstreaming : gpu.upload.streaming = false) {pending : List UInt32}
    (hpending : gpu.assembler = ⟨(first :: pending).toArray⟩) (word : UInt32)
    (hlong : 1 < Packet.length (Word.command first))
    (hfixed : Packet.length (Word.command first) < Packet.flatPolyline) :
    gpu.receive word =
      if Packet.length (Word.command first) ≤ pending.length + 2 then
        execute { gpu with assembler := {} } ⟨Word.command first, first :: (pending ++ [word])⟩
      else
        { gpu with assembler := ⟨(first :: (pending ++ [word])).toArray⟩ } := by
  rw [receive_of_not_streaming hstreaming]
  unfold interpret
  rw [hpending, Assembler.push_pending pending word hlong hfixed]
  by_cases hlast : Packet.length (Word.command first) ≤ pending.length + 2
  · simp only [if_pos hlast]
  · simp only [if_neg hlast]

/-- A packet in progress is executed with its last word. -/
theorem receiveAll_pending (gpu : Gpu) (hstreaming : gpu.upload.streaming = false)
    (pending : List UInt32) (hpending : gpu.assembler = ⟨(first :: pending).toArray⟩)
    {rest : List UInt32} (hrest : rest ≠ [])
    (hlength : Packet.length (Word.command first) = pending.length + rest.length + 1)
    (hfixed : Packet.length (Word.command first) < Packet.flatPolyline) :
    gpu.receiveAll rest =
      execute { gpu with assembler := {} }
        ⟨Word.command first, first :: (pending ++ rest)⟩ := by
  induction rest generalizing gpu pending with
  | nil => exact absurd rfl hrest
  | cons word rest ih =>
      rw [List.length_cons] at hlength
      rw [receiveAll, List.foldl_cons, receive_pending hstreaming hpending word (by omega) hfixed]
      cases rest with
      | nil =>
          rw [List.length_nil] at hlength
          rw [if_pos (by omega)]
          rfl
      | cons next rest =>
          rw [List.length_cons] at hlength
          have hcollected := ih { gpu with assembler := ⟨(first :: (pending ++ [word])).toArray⟩ }
            hstreaming (pending ++ [word]) rfl (List.cons_ne_nil next rest)
            (by rw [hlength, List.length_append, List.length_singleton, List.length_cons]; omega)
          rw [List.append_assoc, List.singleton_append] at hcollected
          rw [if_neg (by omega)]
          exact hcollected

/-- The words of a packet of fixed length, given to a processor without a packet in progress, are
executed as that packet. -/
theorem receiveAll_packet {rest : List UInt32} (hidle : gpu.assembler.isIdle = true)
    (hstreaming : gpu.upload.streaming = false) (hrest : rest ≠ [])
    (hlength : Packet.length (Word.command first) = rest.length + 1)
    (hfixed : Packet.length (Word.command first) < Packet.flatPolyline) :
    gpu.receiveAll (first :: rest) = gpu.execute ⟨Word.command first, first :: rest⟩ := by
  have hlong : 1 < Packet.length (Word.command first) := by
    have hpositive := List.length_pos_iff.2 hrest
    omega
  have hassembler := Assembler.eq_of_isIdle hidle
  have hfirst : gpu.receive first = { gpu with assembler := ⟨#[first]⟩ } := by
    rw [receive_of_not_streaming hstreaming]
    unfold interpret
    rw [hassembler, Assembler.push_first hlong hfixed]
  have hback : { gpu with assembler := {} } = gpu := by rw [← hassembler]
  have hexecuted := receiveAll_pending { gpu with assembler := ⟨#[first]⟩ } hstreaming [] rfl hrest
    (by rw [hlength, List.length_nil, Nat.zero_add]) hfixed
  rw [receiveAll, List.foldl_cons, hfirst]
  exact hback ▸ hexecuted

/-- A chunk does what its words do, between the two times at which the processor shows whether it is
available. -/
theorem takeChunk_of_receiveAll {words : List UInt32} {after : Gpu}
    (hreceived :
      receiveAll { gpu with status := gpu.status.unset Status.Mask.available } words = after) :
    gpu.takeChunk words = { after with status := after.status.set Status.Mask.available } := by
  rw [takeChunk, whileBusy, hreceived]

/-- The words that begin an upload. -/
theorem receiveAll_upload (hidle : gpu.assembler.isIdle = true)
    (hstreaming : gpu.upload.streaming = false) {command : UInt32}
    (hcommand : Word.command command = 0xA0) (position size : UInt32) :
    gpu.receiveAll [command, position, size] = gpu.beginUpload position size := by
  have hlength : Packet.length (Word.command command) = 3 := by
    rw [hcommand, Packet.length_eq]
    decide
  rw [receiveAll_packet hidle hstreaming (List.cons_ne_nil _ _) hlength (hlength ▸ by decide),
    hcommand]
  rfl

/-- The words that begin a download. -/
theorem receiveAll_download (hidle : gpu.assembler.isIdle = true)
    (hstreaming : gpu.upload.streaming = false) (position size : UInt32) :
    gpu.receiveAll [0xC0000000, position, size] = gpu.beginDownload position size := by
  have hlength : Packet.length (Word.command 0xC0000000) = 3 := by
    rw [Packet.length_eq]
    decide
  exact receiveAll_packet hidle hstreaming (List.cons_ne_nil _ _) hlength
    (hlength ▸ by decide)

/-- The words that move an image. -/
theorem receiveAll_move (hidle : gpu.assembler.isIdle = true)
    (hstreaming : gpu.upload.streaming = false) {command : UInt32}
    (hcommand : Word.command command = 0x80) (source destination size : UInt32) :
    gpu.receiveAll [command, source, destination, size] =
      gpu.moveImage source destination size := by
  have hlength : Packet.length (Word.command command) = 4 := by
    rw [hcommand, Packet.length_eq]
    decide
  rw [receiveAll_packet hidle hstreaming (List.cons_ne_nil _ _) hlength (hlength ▸ by decide),
    hcommand]
  rfl

end Gpu

end GpuCore
