import GpuCore.Proofs.Control.Slots
import GpuCore.Proofs.Freeze.Format
import GpuCore.Proofs.Freeze.RoundTrip
import GpuCore.Snapshot.File

/-!
# Reachable states

A processor gets from its creation to any other state by operations.  Records that it takes over
were taken from processors of this kind, be it as records, as bytes of a host's saved state or as
snapshots; a record that someone made up could hold words that no program wrote.

Main definitions:

- `Gpu.Reachable`: the states that operations lead to.

Main results:

- `Gpu.ownSlots_restoreBytes`: the bytes of a record bring its control slots along.
- `Gpu.Reachable.ownSlots`: control slots hold zero or words of their own opcode.
-/

namespace GpuCore.Gpu

open GpuCore.Calendar (Instant)

/-! ## The states -/

/-- The states of processors that take over no saved states but those that were taken from such
processors. -/
inductive Reachable : Gpu → Prop where
  | create (settings : Settings) (pacer : Pacing.Pacer) : Reachable (create settings pacer)
  /-- Anything but taking over a saved state. -/
  | operate {gpu : Gpu} {operation : Operation} (hgpu : Reachable gpu)
      (hlive : operation.restores = false) : Reachable (gpu.apply operation)
  | restore {gpu source : Gpu} {record : Freeze.Record} (hgpu : Reachable gpu)
      (hsource : Reachable source) (htaken : source.snapshot = .ok record) :
      Reachable (gpu.apply (.restore record))
  /-- The host hands over a buffer that starts with the bytes of a record. -/
  | load {gpu source : Gpu} {record : Freeze.Record} (rest : Array UInt8) (hgpu : Reachable gpu)
      (hsource : Reachable source) (htaken : source.snapshot = .ok record) :
      Reachable (gpu.apply (.freeze .load (record.toBytes ++ rest)))
  | takeOver {gpu source : Gpu} {now : Instant} {snapshot : Snapshot} (hgpu : Reachable gpu)
      (hsource : Reachable source) (hcaptured : source.capture now = .ok snapshot) :
      Reachable (snapshot.apply gpu).2

/-! ## Control slots -/

/-- A record has the control slots of the processor that it is taken from. -/
theorem control_of_snapshot {source : Gpu} {record : Freeze.Record}
    (htaken : source.snapshot = .ok record) : record.control = source.control := by
  rw [(snapshot_eq_ok htaken).2]
  rfl

theorem ownSlots_restore {gpu : Gpu} (hgpu : OwnSlots gpu.control) {record : Freeze.Record}
    (hrecord : OwnSlots record.control) : OwnSlots (gpu.restore record).2.control := by
  obtain hrestored | ⟨fault, hrestored⟩ := restore_cases gpu record
  · rw [hrestored, control_thaw]
    exact hrecord
  · rw [hrestored]
    exact hgpu

/-- Bytes in front of a buffer bring the control slots of their record along, whatever the size of
the image that is read with them. -/
theorem ownSlots_restoreBytes {gpu : Gpu} (hgpu : OwnSlots gpu.control) {record : Freeze.Record}
    (hrecord : OwnSlots record.control) (rest : Array UInt8) :
    OwnSlots (gpu.restoreBytes (record.toBytes ++ rest)).2.control := by
  unfold restoreBytes
  cases hread : Freeze.Record.ofBytes (record.toBytes ++ rest) gpu.vram.size with
  | error fault => exact hgpu
  | ok read =>
      have hcontrol : read.control = record.control := by
        rw [(Freeze.Record.ofBytes_eq_ok hread).2.2]
        ext slot hslot
        rw [Vector.getElem_ofFn, Freeze.Record.wordIn_toBytes_control record rest hslot]
      rw [← hcontrol] at hrecord
      exact ownSlots_restore hgpu hrecord

/-- A snapshot holds the bytes of the record that is taken with it. -/
theorem record_of_capture {source : Gpu} {now : Instant} {snapshot : Snapshot}
    (hcaptured : source.capture now = .ok snapshot) :
    ∃ record, source.snapshot = .ok record ∧ snapshot.record = record.toBytes := by
  unfold capture at hcaptured
  cases htaken : source.snapshot with
  | error fault =>
      rw [htaken] at hcaptured
      cases hcaptured
  | ok record =>
      rw [htaken] at hcaptured
      cases hcaptured
      exact ⟨record, rfl, rfl⟩

/-- In every reachable state the control slots hold zero or words of their own opcode, by induction
on the operations that lead there. -/
theorem Reachable.ownSlots {gpu : Gpu} (hgpu : Reachable gpu) : OwnSlots gpu.control := by
  induction hgpu with
  | create settings pacer => exact ownSlots_replicate
  | operate _ hlive ih => exact ownSlots_apply ih _ hlive
  | restore _ _ htaken ih ihsource =>
      rw [← control_of_snapshot htaken] at ihsource
      exact ownSlots_restore ih ihsource
  | load rest _ _ htaken ih ihsource =>
      rw [← control_of_snapshot htaken] at ihsource
      unfold apply freeze ifInitialized
      dsimp only
      split
      · exact ownSlots_restoreBytes ih ihsource rest
      · exact ih
  | takeOver _ _ hcaptured ih ihsource =>
      obtain ⟨record, htaken, hrecord⟩ := record_of_capture hcaptured
      rw [← control_of_snapshot htaken] at ihsource
      have hbytes := ownSlots_restoreBytes ih ihsource #[]
      rw [Array.append_empty, ← hrecord] at hbytes
      exact hbytes

end GpuCore.Gpu
