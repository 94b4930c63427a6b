import GpuCore.Proofs.DataChannel.Frame

/-!
# What the data channel keeps

Chunks and chains are made of a few pieces: words are collected, packets are performed, pixels are
stored, an upload without pixels is dropped, and around them the processor shows whether it is
available and remembers the addresses of blocks.  What each piece keeps is kept by all of them.

Main definitions:

- `Gpu.KeptOnPort`: what every piece keeps.

Main results:

- `Gpu.KeptOnPort.writeData` and `Gpu.KeptOnPort.followChain`: chunks and chains keep it.
-/

namespace GpuCore.Gpu

/-- Every piece of the work on the data channel keeps `P`. -/
structure KeptOnPort (P : Gpu → Prop) : Prop where
  collect : ∀ {gpu : Gpu} (assembler : Assembler), P gpu → P { gpu with assembler := assembler }
  perform : ∀ {gpu : Gpu} (family : Family) (words : List UInt32),
    P gpu → P (gpu.perform family words)
  storePixels : ∀ {gpu : Gpu} {job : Vram.Job} (word : UInt32),
    gpu.upload.job = some job → P gpu → P (gpu.storePixels job word)
  dropUpload : ∀ {gpu : Gpu}, gpu.upload.job = none → P gpu → P { gpu with upload := {} }
  /-- The polled bits and the busy reads may change. -/
  showBusy : ∀ {gpu : Gpu} {status : Status},
    (∀ mask, mask &&& Status.Mask.available = 0 → status.bits mask = gpu.status.bits mask) →
      P gpu → P { gpu with status := status }
  /-- The block addresses may change. -/
  remember : ∀ {gpu : Gpu} {vram : Vram.Memory}, vram.height = gpu.vram.height →
    vram.cells = gpu.vram.cells → P gpu → P { gpu with vram := vram }

namespace KeptOnPort

variable {P : Gpu → Prop} {gpu : Gpu}

/-! ## Words -/

/-- A packet is carried out, and may arm busy reads. -/
theorem execute (h : KeptOnPort P) (packet : Packet) (hgpu : P gpu) : P (gpu.execute packet) := by
  have hperformed := h.perform (Family.ofOpcode packet.opcode) packet.words hgpu
  unfold Gpu.execute
  dsimp only
  split
  · exact h.showBusy (fun _ _ => rfl) hperformed
  · exact hperformed

/-- A command word is collected, and the packet that it completes executed. -/
theorem interpret (h : KeptOnPort P) (word : UInt32) (hgpu : P gpu) : P (gpu.interpret word) := by
  unfold Gpu.interpret
  split
  · exact h.collect _ hgpu
  · next packet assembler _ => exact h.execute packet (h.collect assembler hgpu)

/-- A word brings pixels or is interpreted; an upload that has ended is dropped in front of it. -/
theorem receive (h : KeptOnPort P) (word : UInt32) (hgpu : P gpu) : P (gpu.receive word) := by
  unfold Gpu.receive
  split
  · split
    · next job hjob => exact h.storePixels word hjob hgpu
    · next hnone => exact h.interpret word (h.dropUpload hnone hgpu)
  · exact h.interpret word hgpu

/-- All words keep what one word keeps. -/
theorem receiveAll (h : KeptOnPort P) (words : List UInt32) (hgpu : P gpu) :
    P (gpu.receiveAll words) := by
  induction words generalizing gpu with
  | nil => exact hgpu
  | cons word words ih => exact ih (h.receive word hgpu)

/-! ## Chunks and chains -/

/-- Work that is done while busy, as some of the polled bits say. -/
theorem whileBusy (h : KeptOnPort P) {busy : UInt32} {work : Gpu → Gpu}
    (hbusy : ∀ mask, mask &&& Status.Mask.available = 0 → mask &&& busy = 0)
    (hwork : ∀ {gpu : Gpu}, P gpu → P (work gpu)) (hgpu : P gpu) : P (gpu.whileBusy busy work) := by
  have hbegun : P { gpu with status := gpu.status.unset busy } :=
    h.showBusy (fun mask hmask => Status.bits_unset_of_disjoint _ (hbusy mask hmask)) hgpu
  exact h.showBusy (fun mask hmask => Status.bits_set_of_disjoint _ (hbusy mask hmask))
    (hwork hbegun)

/-- A chunk is received while the register shows neither idle nor ready. -/
theorem takeChunk (h : KeptOnPort P) (words : List UInt32) (hgpu : P gpu) :
    P (gpu.takeChunk words) :=
  h.whileBusy (fun _ hmask => hmask) (h.receiveAll words) hgpu

/-- A block is a chunk, or nothing. -/
theorem takeBlock (h : KeptOnPort P) (words : List UInt32) (hgpu : P gpu) :
    P (gpu.takeBlock words) := by
  unfold Gpu.takeBlock
  split
  · exact hgpu
  · exact h.takeChunk words hgpu

/-- Words are taken as a chunk, or refused. -/
theorem writeData (h : KeptOnPort P) (words : List UInt32) (hgpu : P gpu) :
    P (gpu.writeData words).2 := by
  unfold Gpu.writeData ifInitialized
  split
  · exact h.takeChunk words hgpu
  · exact hgpu

/-- A visit changes the block addresses only. -/
theorem visit (h : KeptOnPort P) (address : UInt32) (hgpu : P gpu) :
    P { gpu with vram := (gpu.vram.visit address).2 } := by
  unfold Vram.Memory.visit
  split <;> exact h.remember rfl rfl hgpu

/-- A chain is followed with visits and blocks in turn. -/
theorem followChain (h : KeptOnPort P) (memory : Array UInt32) (address : UInt32) (hgpu : P gpu) :
    P (gpu.followChain memory address).2 := by
  unfold Gpu.followChain ifInitialized
  split
  · dsimp only
    refine h.whileBusy (fun mask hmask => (Status.and_or_eq_zero_iff.1 hmask).1) ?_ hgpu
    intro gpu hgpu
    exact walkChain_preserves (fun _ address hvisited => h.visit address hvisited)
      (fun _ words hblock => h.takeBlock words hblock) memory _ address _ (h.remember rfl rfl hgpu)
  · exact hgpu

end KeptOnPort

end GpuCore.Gpu
