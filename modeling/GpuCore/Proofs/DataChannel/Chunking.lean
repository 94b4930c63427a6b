import GpuCore.Proofs.DataChannel.Frame

/-!
# Chunks of data words

A host may cut the stream of data words anywhere: within a packet, between a command and its
pixels, within a line of an image or where an image ends.  The processor only sees the stream.
Between two chunks it shows itself as available, and it takes that back before it works on.

Main definitions:

- `Gpu.writeChunks`: write chunks one after another.

Main results:

- `Gpu.takeChunk_append`: two chunks act like the one chunk that they make up.
- `Gpu.writeChunks_eq_writeData`: any way of cutting a stream ends in the same state, and tells
  the renderer the same, as writing it at once.
-/

namespace GpuCore.Gpu

/-! ## Two chunks -/

/-- Words received in two parts. -/
theorem receiveAll_append (gpu : Gpu) (first second : List UInt32) :
    gpu.receiveAll (first ++ second) = (gpu.receiveAll first).receiveAll second :=
  List.foldl_append

/-- While words are received, a processor that does not show itself as available goes on not
to. -/
theorem receiveAll_bits_available (gpu : Gpu) (words : List UInt32) :
    (gpu.receiveAll words).status.bits Status.Mask.available =
      gpu.status.bits Status.Mask.available :=
  (dataFrame_receiveAll gpu words).status Status.Mask.available (by decide)

/-- Two chunks act like the chunk that they make up. -/
theorem takeChunk_append (gpu : Gpu) (first second : List UInt32) :
    gpu.takeChunk (first ++ second) = (gpu.takeChunk first).takeChunk second := by
  have hclear : ((receiveAll { gpu with status := gpu.status.unset Status.Mask.available }
      first).status.bits Status.Mask.available) = 0 := by
    rw [receiveAll_bits_available]
    exact Status.bits_unset_self gpu.status
  simp only [takeChunk, whileBusy, receiveAll_append,
    Status.unset_set_of_bits_eq_zero _ hclear]

/-! ## Any number of chunks -/

/-- Write chunks one after another: what every write answers, and the state after the last. -/
def writeChunks (gpu : Gpu) : List (List UInt32) → List (Except Fault Unit) × Gpu
  | [] => ([], gpu)
  | chunk :: chunks =>
    let (answer, gpu) := gpu.writeData chunk
    let (answers, gpu) := gpu.writeChunks chunks
    (answer :: answers, gpu)

@[simp]
theorem takeChunk_isInitialized (gpu : Gpu) (words : List UInt32) :
    (gpu.takeChunk words).isInitialized = gpu.isInitialized :=
  (dataFrame_takeChunk gpu words).shape.isAllocated_eq

theorem writeData_of_isInitialized {gpu : Gpu} (hinit : gpu.isInitialized = true)
    (words : List UInt32) : gpu.writeData words = (.ok (), gpu.takeChunk words) := by
  simp only [writeData, ifInitialized, hinit, if_true]

/-- With video memory, chunks act like the stream that they make up, if there is a chunk at
all. -/
theorem writeChunks_cons_of_isInitialized {gpu : Gpu} (hinit : gpu.isInitialized = true)
    (chunk : List UInt32) (chunks : List (List UInt32)) :
    gpu.writeChunks (chunk :: chunks) =
      (List.replicate (chunks.length + 1) (.ok ()),
        gpu.takeChunk (chunk :: chunks).flatten) := by
  induction chunks generalizing gpu chunk with
  | nil =>
      simp only [writeChunks, writeData_of_isInitialized hinit, List.flatten_cons,
        List.flatten_nil, List.append_nil]
      rfl
  | cons next chunks ih =>
      have htaken : (gpu.takeChunk chunk).isInitialized = true := by
        rw [takeChunk_isInitialized, hinit]
      rw [writeChunks, writeData_of_isInitialized hinit]
      dsimp only
      rw [ih htaken next, ← takeChunk_append, ← List.flatten_cons]
      rfl

/-- Cutting a stream of data words does not show: however it is cut, every write succeeds, and
the state after the last chunk, the log of events included, is the one after writing the stream at
once. -/
theorem writeChunks_eq_writeData (gpu : Gpu) (words : List UInt32) (chunks : List (List UInt32))
    (hinit : gpu.isInitialized = true) (hwords : words ≠ []) (hcut : chunks.flatten = words) :
    (gpu.writeData words).1 = .ok () ∧
      gpu.writeChunks chunks =
        (List.replicate chunks.length (.ok ()), (gpu.writeData words).2) := by
  rw [writeData_of_isInitialized hinit]
  refine ⟨rfl, ?_⟩
  cases chunks with
  | nil => exact absurd hcut.symm hwords
  | cons chunk chunks =>
      rw [writeChunks_cons_of_isInitialized hinit, hcut]
      rfl

/-- An image of three pixels and a command behind it, cut within the header of the image, between
header and pixels, and within the pixels. -/
theorem writeChunks_eq_writeData_upload :
    let gpu := (create {} (.create {} 1000000)).powerOn
    let words : List UInt32 := [0xA0000000, 0x000003FF, 0x00010003, 1, 2, 0xE1000400]
    let chunks : List (List UInt32) :=
      [[0xA0000000, 0x000003FF], [0x00010003], [], [1], [2, 0xE1000400]]
    gpu.isInitialized = true ∧ words ≠ [] ∧ chunks.flatten = words ∧
      (gpu.writeData words).1 = .ok () ∧
      gpu.writeChunks chunks =
        (List.replicate chunks.length (.ok ()), (gpu.writeData words).2) := by
  intro gpu words chunks
  have hinit : gpu.isInitialized = true := powerOn_isInitialized _
  have hwords : words ≠ [] := by decide
  have hcut : chunks.flatten = words := by decide
  exact ⟨hinit, hwords, hcut, writeChunks_eq_writeData gpu words chunks hinit hwords hcut⟩

end GpuCore.Gpu
