import GpuCore.Host
import GpuCore.Proofs.Freeze.Format
import GpuCore.Proofs.Freeze.RoundTrip

/-!
# Refused freeze requests

Before a freeze request is met, a few things are looked at in a fixed order, and the first one
that does not hold is the fault that is reported.  Nothing is changed before all of them hold.

Main definitions:

- `Freeze.Check` and `Freeze.firstFault`: an ordered list of conditions and its first failure.
- `Gpu.freezeChecks`: what is looked at for every kind of request.
- `Host.Refuses`: the requests of a host that are refused.

Main results:

- `Gpu.freeze_of_fault` and `Gpu.freeze_of_no_fault`: the first failure is reported and nothing
  changes; a request without one succeeds.
- `Host.freeze_refuses_iff`: what a host is told, and that a refused request leaves no trace.
-/

namespace GpuCore

/-! ## Ordered conditions -/

namespace Freeze

/-- Something that must hold, and the fault that is reported where it does not. -/
structure Check where
  holds : Bool
  fault : Fault

/-- The fault of the first condition that does not hold. -/
def firstFault : List Check → Option Fault
  | [] => none
  | check :: checks => if check.holds then firstFault checks else some check.fault

theorem firstFault_eq_none_iff {checks : List Check} :
    firstFault checks = none ↔ ∀ check ∈ checks, check.holds = true := by
  induction checks with
  | nil => simp [firstFault]
  | cons check checks ih =>
      rw [List.forall_mem_cons, ← ih, firstFault]
      split
      · next hholds => simp [hholds]
      · next hfails => simp [hfails]

end Freeze

open Freeze (Check firstFault wordIn)

namespace Gpu

/-! ## The conditions of a request -/

/-- The conditions on bytes that a record is read from. -/
def recordChecks (gpu : Gpu) (buffer : Array UInt8) : List Check :=
  [⟨8 ≤ buffer.size, .bufferSize gpu.freezeSize buffer.size⟩,
    ⟨wordIn buffer 0 = Freeze.version,
      .incompatibleRecord Freeze.version (wordIn buffer 0)⟩,
    ⟨gpu.freezeSize ≤ buffer.size, .bufferSize gpu.freezeSize buffer.size⟩]

/-- The conditions of a freeze request, in the order in which they are looked at. -/
def freezeChecks (gpu : Gpu) (buffer : Array UInt8) : FreezeMode → List Check
  | .load => ⟨gpu.isInitialized, .notInitialized⟩ :: gpu.recordChecks buffer
  | .save =>
    [⟨gpu.isInitialized, .notInitialized⟩,
      ⟨gpu.freezeSize ≤ buffer.size, .bufferSize gpu.freezeSize buffer.size⟩]
  | .info =>
    [⟨4 ≤ buffer.size, .bufferSize 4 buffer.size⟩,
      ⟨0 ≤ (wordIn buffer 0).toInt32.toInt ∧ (wordIn buffer 0).toInt32.toInt ≤ 8,
        .invalidSaveSlot (wordIn buffer 0).toInt32.toInt⟩]

variable {gpu : Gpu} {buffer : Array UInt8} {fault : Fault}

/-! ## Reading a record -/

/-- Reading the record of this processor's size fails with the first fault of the bytes. -/
theorem ofBytes_of_fault (hfault : firstFault (gpu.recordChecks buffer) = some fault) :
    Freeze.Record.ofBytes buffer gpu.vram.size = .error fault := by
  simp only [recordChecks, firstFault, decide_eq_true_eq] at hfault
  unfold Freeze.Record.ofBytes
  split at hfault
  · next hheader =>
    rw [if_neg (Nat.not_lt.mpr hheader)]
    split at hfault
    · next hversion =>
      rw [if_neg (not_not_intro hversion)]
      split at hfault
      · cases hfault
      · next hshort =>
        cases hfault
        exact if_pos (Nat.lt_of_not_le hshort)
    · next hversion =>
      cases hfault
      exact if_pos hversion
  · next hheader =>
    cases hfault
    exact if_pos (Nat.lt_of_not_le hheader)

/-- Bytes without a fault hold a record that this processor restores. -/
theorem restoreBytes_of_no_fault (hinitialized : gpu.isInitialized = true)
    (hfault : firstFault (gpu.recordChecks buffer) = none) :
    ∃ record, gpu.restoreBytes buffer = (.ok (), gpu.thaw record) := by
  rw [Freeze.firstFault_eq_none_iff] at hfault
  simp only [recordChecks, List.forall_mem_cons, decide_eq_true_eq] at hfault
  obtain ⟨hheader, hversion, hsize, _⟩ := hfault
  cases hread : Freeze.Record.ofBytes buffer gpu.vram.size with
  | error fault =>
      have hrecord : gpu.freezeSize = Freeze.recordSize gpu.vram.size := rfl
      rw [Freeze.Record.ofBytes, if_neg (Nat.not_lt.mpr hheader), if_neg (not_not_intro hversion),
        if_neg (Nat.not_lt.mpr (hrecord ▸ hsize))] at hread
      cases hread
  | ok record =>
      refine ⟨record, ?_⟩
      rw [restoreBytes, hread]
      exact restore_of_fits hinitialized (Freeze.Record.version_of_ofBytes hread)
        (Freeze.Record.size_pixels_of_ofBytes hread)

/-! ## Reading a save slot -/

/-- The save slots are those from zero to eight. -/
theorem slotIn_eq (buffer : Array UInt8) :
    slotIn buffer =
      if 4 ≤ buffer.size then
        if 0 ≤ (wordIn buffer 0).toInt32.toInt ∧ (wordIn buffer 0).toInt32.toInt ≤ 8 then
          .ok (wordIn buffer 0).toInt32
        else
          .error (.invalidSaveSlot (wordIn buffer 0).toInt32.toInt)
      else
        .error (.bufferSize 4 buffer.size) := by
  have hzero (slot : Int32) : 0 ≤ slot ↔ 0 ≤ slot.toInt := Int32.le_iff_toInt_le
  have height (slot : Int32) : slot ≤ maxSaveSlot ↔ slot.toInt ≤ 8 := Int32.le_iff_toInt_le
  unfold slotIn
  by_cases hsize : 4 ≤ buffer.size
  · rw [if_neg (Nat.not_lt.mpr hsize), if_pos hsize]
    simp only [hzero, height]
  · rw [if_pos (Nat.lt_of_not_le hsize), if_neg hsize]

/-! ## Requests -/

/-- A request with a fault is refused with the first one, and nothing changes. -/
theorem freeze_of_fault {mode : FreezeMode}
    (hfault : firstFault (gpu.freezeChecks buffer mode) = some fault) :
    gpu.freeze mode buffer = (.error fault, buffer, gpu) := by
  -- In every mode the conditions are split in their order, and the first one that fails ends it.
  cases mode with
  | load =>
      rw [freezeChecks, firstFault] at hfault
      unfold freeze ifInitialized
      split at hfault
      · next hinitialized =>
        simp only [if_pos hinitialized, restoreBytes, ofBytes_of_fault hfault]
      · next huninitialized =>
        cases hfault
        simp only [if_neg huninitialized]
  | save =>
      simp only [freezeChecks, firstFault, decide_eq_true_eq] at hfault
      split at hfault
      · next hinitialized =>
        split at hfault
        · cases hfault
        · next hshort =>
          cases hfault
          have hwritten : gpu.record.writeTo buffer =
              .error (.bufferSize gpu.freezeSize buffer.size) := by
            rw [← size_record hinitialized] at hshort ⊢
            rw [Freeze.Record.writeTo, Freeze.Record.write, if_neg hshort]
            rfl
          rw [freeze, saveTo_eq_writeTo hinitialized, hwritten]
      · next huninitialized =>
        cases hfault
        have hsaved : gpu.saveTo buffer = .error .notInitialized := by
          rw [saveTo, snapshot, if_neg huninitialized]
          rfl
        rw [freeze, hsaved]
  | info =>
      simp only [freezeChecks, firstFault, decide_eq_true_eq] at hfault
      unfold freeze
      rw [slotIn_eq]
      split at hfault
      · next hsize =>
        rw [if_pos hsize]
        split at hfault
        · cases hfault
        · next hslot =>
          cases hfault
          rw [if_neg hslot]
      · next hsize =>
        cases hfault
        rw [if_neg hsize]

/-- A request without a fault succeeds. -/
theorem freeze_of_no_fault {mode : FreezeMode}
    (hfault : firstFault (gpu.freezeChecks buffer mode) = none) :
    ∃ after later, gpu.freeze mode buffer = (.ok (), after, later) := by
  cases mode with
  | load =>
      rw [freezeChecks, firstFault] at hfault
      split at hfault
      · next hinitialized =>
        obtain ⟨record, hrestored⟩ := restoreBytes_of_no_fault hinitialized hfault
        refine ⟨buffer, gpu.thaw record, ?_⟩
        rw [freeze, ifInitialized, if_pos hinitialized, hrestored]
      · cases hfault
  | save =>
      rw [Freeze.firstFault_eq_none_iff] at hfault
      simp only [freezeChecks, List.forall_mem_cons, decide_eq_true_eq] at hfault
      obtain ⟨hinitialized, hroom, _⟩ := hfault
      exact ⟨_, gpu, freeze_save hinitialized hroom⟩
  | info =>
      rw [Freeze.firstFault_eq_none_iff] at hfault
      simp only [freezeChecks, List.forall_mem_cons, decide_eq_true_eq] at hfault
      obtain ⟨hsize, hslot, _⟩ := hfault
      refine ⟨buffer, { gpu with saveSlot := (wordIn buffer 0).toInt32 }, ?_⟩
      rw [freeze, slotIn_eq, if_pos hsize, if_pos hslot]

/-! ## The conditions in words -/

/-- Restoring is refused without video memory and for a buffer without a header, with a foreign
version or without a whole record. -/
theorem fault_load_iff :
    firstFault (gpu.freezeChecks buffer .load) ≠ none ↔
      gpu.isInitialized = false ∨ buffer.size < 8 ∨ wordIn buffer 0 ≠ Freeze.version ∨
        buffer.size < gpu.freezeSize := by
  rw [ne_eq, Freeze.firstFault_eq_none_iff]
  simp only [freezeChecks, recordChecks, List.forall_mem_cons, List.not_mem_nil, false_implies,
    implies_true, and_true, decide_eq_true_eq, Decidable.not_and_iff_not_or_not, Nat.not_le, ne_eq,
    Bool.not_eq_true]

/-- Saving is refused without video memory and for a buffer without room for the record. -/
theorem fault_save_iff :
    firstFault (gpu.freezeChecks buffer .save) ≠ none ↔
      gpu.isInitialized = false ∨ buffer.size < gpu.freezeSize := by
  rw [ne_eq, Freeze.firstFault_eq_none_iff]
  simp only [freezeChecks, List.forall_mem_cons, List.not_mem_nil, false_implies, implies_true,
    and_true, decide_eq_true_eq, Decidable.not_and_iff_not_or_not, Nat.not_le, Bool.not_eq_true]

/-- A save slot is refused when the buffer does not hold it, and outside zero to eight. -/
theorem fault_info_iff :
    firstFault (gpu.freezeChecks buffer .info) ≠ none ↔
      buffer.size < 4 ∨ (wordIn buffer 0).toInt32.toInt < 0 ∨
        8 < (wordIn buffer 0).toInt32.toInt := by
  rw [ne_eq, Freeze.firstFault_eq_none_iff]
  simp only [freezeChecks, List.forall_mem_cons, List.not_mem_nil, false_implies, implies_true,
    and_true, decide_eq_true_eq, Decidable.not_and_iff_not_or_not, Nat.not_le, Int.not_le]

end Gpu

/-! ## Host requests -/

namespace Host

/-- The freeze requests that are refused: those of an unknown mode, those without video memory,
records that do not fit, and save slots that do not exist. -/
def Refuses (host : Host) (mode : UInt32) (buffer : Array UInt8) : Prop :=
  (mode ≠ 0 ∧ mode ≠ 1 ∧ mode ≠ 2) ∨
    ((mode = 0 ∨ mode = 1) ∧ host.gpu.isInitialized = false) ∨
    (mode = 1 ∧ buffer.size < host.gpu.freezeSize) ∨
    (mode = 0 ∧
      (buffer.size < 8 ∨ wordIn buffer 0 ≠ 1 ∨ buffer.size < host.gpu.freezeSize)) ∨
    (mode = 2 ∧
      (buffer.size < 4 ∨ (wordIn buffer 0).toInt32.toInt < 0 ∨
        8 < (wordIn buffer 0).toInt32.toInt))

variable {host : Host} {word : UInt32} {mode : FreezeMode} {buffer : Array UInt8}

theorem freeze_of_unknown_mode {fault : Fault} (hmode : FreezeMode.ofWord word = .error fault) :
    host.freeze word buffer = (0, buffer, host) := by
  rw [freeze, hmode]

/-- A request of a known mode with a fault is answered with zero and leaves no trace. -/
theorem freeze_of_fault (hmode : FreezeMode.ofWord word = .ok mode)
    (hfault : firstFault (host.gpu.freezeChecks buffer mode) ≠ none) :
    host.freeze word buffer = (0, buffer, host) := by
  obtain ⟨fault, hfault⟩ := Option.ne_none_iff_exists'.mp hfault
  rw [freeze, hmode]
  simp only [Gpu.freeze_of_fault hfault]

/-- A request of a known mode without a fault is answered with one. -/
theorem freeze_of_no_fault (hmode : FreezeMode.ofWord word = .ok mode)
    (hfault : firstFault (host.gpu.freezeChecks buffer mode) = none) :
    (host.freeze word buffer).1 = 1 := by
  obtain ⟨after, later, hfrozen⟩ := Gpu.freeze_of_no_fault hfault
  rw [freeze, hmode]
  simp only [hfrozen]

/-- A request of a known mode is answered with zero exactly when it has a fault. -/
theorem freeze_code_iff (hmode : FreezeMode.ofWord word = .ok mode) :
    (host.freeze word buffer).1 = 0 ↔
      firstFault (host.gpu.freezeChecks buffer mode) ≠ none := by
  constructor
  · intro hcode hfault
    rw [freeze_of_no_fault hmode hfault] at hcode
    cases hcode
  · intro hfault
    rw [freeze_of_fault hmode hfault]

/-- The answer is zero exactly for the requests that are refused. -/
theorem freeze_code_iff_refuses (host : Host) (word : UInt32) (buffer : Array UInt8) :
    (host.freeze word buffer).1 = 0 ↔ host.Refuses word buffer := by
  have hknown {number : UInt32} {mode : FreezeMode} (hword : word = number)
      (hmode : FreezeMode.ofWord number = .ok mode) : FreezeMode.ofWord word = .ok mode :=
    hword ▸ hmode
  by_cases hload : word = 0
  · rw [freeze_code_iff (hknown hload rfl), Gpu.fault_load_iff]
    simp [Refuses, hload, Freeze.version]
  · by_cases hsave : word = 1
    · rw [freeze_code_iff (hknown hsave rfl), Gpu.fault_save_iff]
      simp [Refuses, hsave]
    · by_cases hinfo : word = 2
      · rw [freeze_code_iff (hknown hinfo rfl), Gpu.fault_info_iff]
        simp [Refuses, hinfo]
      · have hmode : FreezeMode.ofWord word = .error (.invalidFreezeMode word) := by
          rw [FreezeMode.ofWord, if_neg hload, if_neg hsave, if_neg hinfo]
        rw [freeze_of_unknown_mode hmode]
        simp [Refuses, hload, hsave, hinfo]

/-- A request that is answered with zero leaves buffer and host alone. -/
theorem freeze_unchanged (hcode : (host.freeze word buffer).1 = 0) :
    (host.freeze word buffer).2 = (buffer, host) := by
  cases hmode : FreezeMode.ofWord word with
  | error fault => rw [freeze_of_unknown_mode hmode]
  | ok mode => rw [freeze_of_fault hmode ((freeze_code_iff hmode).mp hcode)]

/-- A freeze request is answered with zero exactly when it is one of those that are refused, and
then it leaves the buffer, the processor and the log of the renderer as they were; all others are
answered with one.  A foreign version is reported before a buffer that is too short, to every
processor with video memory. -/
theorem freeze_refuses_iff (host : Host) (word : UInt32) (buffer : Array UInt8) :
    ((host.freeze word buffer).1 = 0 ↔ host.Refuses word buffer) ∧
      (¬ host.Refuses word buffer → (host.freeze word buffer).1 = 1) ∧
      ((host.freeze word buffer).1 = 0 → (host.freeze word buffer).2 = (buffer, host)) ∧
      (8 ≤ buffer.size → wordIn buffer 0 ≠ 1 →
        host.gpu.freeze .load buffer =
          (.error
            (if host.gpu.isInitialized then .incompatibleRecord 1 (wordIn buffer 0)
              else .notInitialized),
            buffer, host.gpu)) := by
  refine ⟨freeze_code_iff_refuses host word buffer, fun haccepted => ?_, freeze_unchanged,
    fun hheader hversion => Gpu.freeze_of_fault ?_⟩
  · rw [← freeze_code_iff_refuses] at haccepted
    cases hmode : FreezeMode.ofWord word with
    | error fault => exact absurd (congrArg Prod.fst (freeze_of_unknown_mode hmode)) haccepted
    | ok mode =>
        rw [freeze_code_iff hmode, ne_eq, Decidable.not_not] at haccepted
        exact freeze_of_no_fault hmode haccepted
  · simp only [Gpu.freezeChecks, Gpu.recordChecks, firstFault, hheader, Freeze.version, hversion]
    split <;> rfl

/-- A header of version 2 in a buffer without room for a record, and a save slot. -/
theorem freeze_refuses_foreign_version :
    let host : Host := { gpu := (Gpu.create {} (.create {} 1000000)).powerOn }
    let foreign : Array UInt8 := #[2, 0, 0, 0, 0, 0, 0, 0]
    let slot : Array UInt8 := #[5, 0, 0, 0]
    host.Refuses 0 foreign ∧ host.freeze 0 foreign = (0, foreign, host) ∧
      host.gpu.freeze .load foreign =
        (.error (.incompatibleRecord 1 2), foreign, host.gpu) ∧
      ¬ host.Refuses 2 slot ∧ (host.freeze 2 slot).1 = 1 := by
  intro host foreign slot
  have hversion : wordIn foreign 0 = 2 := by decide
  have hforeign : host.Refuses 0 foreign := by
    refine .inr (.inr (.inr (.inl ⟨rfl, .inr (.inl ?_)⟩)))
    rw [hversion]
    decide
  have hslot : ¬ host.Refuses 2 slot := by
    have hvalue : (wordIn slot 0).toInt32.toInt = 5 := by decide
    have hsize : slot.size = 4 := rfl
    simp [Refuses, hvalue, hsize]
  obtain ⟨hcode, _, hunchanged, hreported⟩ := freeze_refuses_iff host 0 foreign
  have hrefused : host.freeze 0 foreign = (0, foreign, host) :=
    Prod.ext (hcode.mpr hforeign) (hunchanged (hcode.mpr hforeign))
  have hload := hreported (Nat.le_refl 8) (by rw [hversion]; decide)
  rw [if_pos (Gpu.powerOn_isInitialized _), hversion] at hload
  exact ⟨hforeign, hrefused, hload, hslot, (freeze_refuses_iff host 2 slot).2.1 hslot⟩

end Host

end GpuCore
