import GpuCore.Answer
import GpuCore.Proofs.Alike.Control
import GpuCore.Proofs.Alike.DataChannel
import GpuCore.Proofs.Alike.Setup
import GpuCore.Proofs.Operation.Reachable

/-!
# Restoring forgets

A record sets three fields, but the first control slot that is replayed holds a reset word, which
drops everything that the record does not hold.  What a processor was doing before it restores a
record therefore makes no difference to what it does afterwards.

Main definitions:

- `Operation.writesPort`: words written to the two ports.

Main results:

- `Gpu.alike_thaw`: thawing a record makes any two processors alike.
- `Gpu.AlikeSince.run`: words written to the ports keep two processors alike.
- `Gpu.restore_forgets`: after restoring a record, two processors act alike, and restoring the
  record again changes nothing that matters.
-/

namespace GpuCore

/-- Whether an operation writes words to the ports. -/
def Operation.writesPort : Operation → Bool
  | writeData _ | writeControl _ => true
  | _ => false

namespace Gpu

/-! ## Thawing -/

/-- A reset word is obeyed after it was kept. -/
theorem replaySlot_of_reset {control : Vector UInt32 controlSlots} (gpu : Gpu)
    (hreset : Word.field control[0] 24 8 = 0) :
    replaySlot control gpu 0 = (gpu.keepControl control[0]).resetCommands := by
  have hobeyed : (gpu.keepControl control[0]).obey control[0] =
      (gpu.keepControl control[0]).resetCommands := by
    simp only [obey, hreset]
  exact hobeyed

/-- No packet is in progress after thawing. -/
theorem assembler_thaw (gpu : Gpu) {record : Freeze.Record}
    (hreset : Word.field record.control[0] 24 8 = 0) : (gpu.thaw record).assembler = {} := by
  have hword (gpu : Gpu) (word : UInt32) (hidle : gpu.assembler = {}) :
      (gpu.writeControl word).assembler = {} := by
    have hmoved (gpu : Gpu) (moved : Bool) : (gpu.emitMoved moved).assembler = gpu.assembler := by
      unfold emitMoved
      split <;> rfl
    refine obey_cases (motive := fun after => after.assembler = {}) _ word
      ?reset ?drop ?acknowledge ?enable ?direct ?position ?columns ?lines ?mode ?query ?ignore
      <;> intro _
    case reset => rfl
    case drop => rfl
    case acknowledge => exact hidle
    case enable => exact hidle
    case direct => exact hidle
    case position => exact (hmoved _ _).trans hidle
    case columns => exact (hmoved _ _).trans hidle
    case lines => exact (hmoved _ _).trans hidle
    case mode =>
        simp only [setDisplayMode]
        split <;> exact hidle
    case query => exact hidle
    case ignore => exact hidle
  have hmode (gpu : Gpu) : gpu.applyMode.assembler = gpu.assembler := by
    unfold applyMode
    split <;> rfl
  have hfirst (gpu : Gpu) : (replaySlot record.control gpu 0).assembler = {} := by
    rw [replaySlot_of_reset gpu hreset]
    rfl
  have hreplayed (gpu : Gpu) :
      (replayOrder.foldl (replaySlot record.control) gpu).assembler = {} :=
    replay_preserves (P := fun after => after.assembler = {}) hword record.control
      [1, 2, 3, 8, 6, 7, 5, 4] (hfirst gpu)
  unfold thaw setRegisters
  dsimp only
  rw [hmode]
  exact hreplayed _

/-- Thawing a record makes any two processors of the same setup alike.  The reset word in the first
slot drops what the record does not hold, and the other slots find processors that agree. -/
theorem alike_thaw {left right : Gpu} {record : Freeze.Record} (hsetup : SameSetup left right)
    (hleft : left.isInitialized = true) (hright : right.isInitialized = true)
    (hleftSize : record.pixels.size = left.vram.size)
    (hrightSize : record.pixels.size = right.vram.size)
    (hreset : Word.field record.control[0] 24 8 = 0) :
    Alike (left.thaw record) (right.thaw record) := by
  have hheight : right.vram.height = left.vram.height := by
    rw [← Vram.Memory.size_eq_iff, ← hleftSize, ← hrightSize]
  have hshape : left.vram.SameShape right.vram :=
    Vram.Memory.sameShape_of_height hleft hright hheight
  have himage := Vram.Memory.sameImage_load hleft hshape hleftSize
  let loaded (gpu : Gpu) : Gpu :=
    { gpu.setRegisters record with vram := gpu.vram.load record.pixels }
  -- Nothing is known of the two processors before the first slot but setup, image and slots.
  have hfirst : Alike (replaySlot record.control (loaded left) 0)
      (replaySlot record.control (loaded right) 0) := by
    rw [replaySlot_of_reset _ hreset, replaySlot_of_reset _ hreset]
    exact alike_resetCommands { hsetup with } himage rfl
  have hreplayed := hfirst.since.replay record.control [1, 2, 3, 8, 6, 7, 5, 4]
  exact (hreplayed.applyMode.setRegisters record).toAlike

/-! ## Further words -/

/-- Words written to the ports are answered alike and keep two processors alike, by induction on
the operations. -/
theorem AlikeSince.run {leftLog rightLog : Array Event} {left right : Gpu}
    (h : AlikeSince leftLog rightLog left right) {operations : List Operation}
    (hwords : ∀ operation ∈ operations, operation.writesPort = true) :
    left.answers operations = right.answers operations ∧
      AlikeSince leftLog rightLog (left.run operations) (right.run operations) := by
  induction operations generalizing left right with
  | nil => exact ⟨rfl, h⟩
  | cons operation operations ih =>
      obtain ⟨hword, hrest⟩ := List.forall_mem_cons.mp hwords
      rw [run_cons, run_cons, answers, answers]
      cases operation with
      | writeData words =>
          obtain ⟨hanswer, hafter⟩ := h.writeData words
          obtain ⟨hanswers, hend⟩ := ih hafter hrest
          refine ⟨?_, hend⟩
          rw [answer?, answer?, hanswer]
          exact congrArg _ hanswers
      | writeControl word =>
          obtain ⟨hanswers, hend⟩ := ih (h.writeControl word) hrest
          exact ⟨congrArg _ hanswers, hend⟩
      | _ => contradiction

/-! ## Restoring -/

/-- After any two processors of the same setup have restored a record that was taken from a
reachable state, they agree on image, status register, control slots, display, packets, transfers,
latches, drawing mode and rate, no packet is in progress, and every further word acts alike on both:
the same events are told to both renderers, who hear them all but for the primitives of a period
that is skipped.  Restoring the same record again leaves all this as it is. -/
theorem restore_forgets {source left right : Gpu} {record : Freeze.Record}
    (hsource : Reachable source) (htaken : source.snapshot = .ok record)
    (hsetup : SameSetup left right)
    (hleft : left.isInitialized = true) (hright : right.isInitialized = true)
    (hleftHeight : left.vram.height = source.vram.height)
    (hrightHeight : right.vram.height = source.vram.height) :
    ∃ left' right', left.restore record = (.ok (), left') ∧
      right.restore record = (.ok (), right') ∧
      Alike left' right' ∧ left'.assembler = {} ∧
      (∀ operations : List Operation,
        (∀ operation ∈ operations, operation.writesPort = true) →
          left'.answers operations = right'.answers operations ∧
            AlikeSince left'.events right'.events (left'.run operations)
              (right'.run operations)) ∧
      ∃ again, left'.restore record = (.ok (), again) ∧ Alike again left' := by
  have hreset : Word.field record.control[0] 24 8 = 0 := by
    have hown := hsource.ownSlots
    rw [← control_of_snapshot htaken] at hown
    exact hown.reset
  obtain ⟨hinitialized, hrecord⟩ := snapshot_eq_ok htaken
  have hversion : record.version = Freeze.version := by
    rw [hrecord]
    rfl
  have hsize {gpu : Gpu} (hheight : gpu.vram.height = source.vram.height) :
      record.pixels.size = gpu.vram.size := by
    rw [hrecord, size_record_pixels hinitialized, Vram.Memory.size_eq_iff, hheight]
  have hthawed := alike_thaw hsetup hleft hright (hsize hleftHeight) (hsize hrightHeight) hreset
  have hafter : (left.thaw record).isInitialized = true := hthawed.image.allocated
  have hafterHeight : (left.thaw record).vram.height = source.vram.height := by
    rw [vram_thaw, (Vram.Memory.sameShape_load hleft (hsize hleftHeight)).1, hleftHeight]
  -- Restoring again is restoring in the processor that has restored once and in the one before.
  refine ⟨left.thaw record, right.thaw record,
    restore_of_fits hleft hversion (hsize hleftHeight),
    restore_of_fits hright hversion (hsize hrightHeight), hthawed, assembler_thaw left hreset,
    fun operations hwords => hthawed.since.run hwords, (left.thaw record).thaw record,
    restore_of_fits hafter hversion (hsize hafterHeight), ?_⟩
  exact alike_thaw (sameSetup_thaw left record) hafter hleft (hsize hafterHeight)
    (hsize hleftHeight) hreset

/-- A processor with a packet in progress and one that was set to PAL restore the record of a new
one. -/
theorem restore_forgets_packet :
    let source := (create {} (.create {} 1000000)).powerOn
    let left := (source.writeData [0x28FFFFFF]).2
    let right := source.writeControl 0x08000008
    Reachable source ∧ source.snapshot = .ok source.record ∧ SameSetup left right ∧
      left.isInitialized = true ∧ right.isInitialized = true ∧
      left.vram.height = source.vram.height ∧ right.vram.height = source.vram.height ∧
      ∃ left' right', left.restore source.record = (.ok (), left') ∧
        right.restore source.record = (.ok (), right') ∧
        Alike left' right' ∧ left'.assembler = {} ∧
        ∃ again, left'.restore source.record = (.ok (), again) ∧ Alike again left' := by
  intro source left right
  have hlive : Operation.powerOn.restores = false := rfl
  have hsource : Reachable source := .operate (.create {} _) hlive
  have hinitialized : source.isInitialized = true := powerOn_isInitialized _
  clear_value source
  have htaken : source.snapshot = .ok source.record := snapshot_of_initialized hinitialized
  have hdata := dataFrame_writeData source [0x28FFFFFF]
  have hshape : source.vram.SameShape left.vram := hdata.shape
  have hsetup : SameSetup left right :=
    hdata.sameSetup.trans (sameSetup_writeControl source 0x08000008).symm
  have hvram : right.vram = source.vram := vram_writeControl source 0x08000008
  have hleft : left.isInitialized = true := hshape.isAllocated_eq.trans hinitialized
  have hright : right.isInitialized = true := by
    rw [isInitialized, hvram]
    exact hinitialized
  have hleftHeight : left.vram.height = source.vram.height := hshape.1
  have hrightHeight : right.vram.height = source.vram.height := by rw [hvram]
  obtain ⟨left', right', hrestored, hrestored', halike, hidle, _, hagain⟩ :=
    restore_forgets hsource htaken hsetup hleft hright hleftHeight hrightHeight
  exact ⟨hsource, htaken, hsetup, hleft, hright, hleftHeight, hrightHeight, left', right',
    hrestored, hrestored', halike, hidle, hagain⟩

end Gpu

end GpuCore
