import GpuCore.Proofs.Operation.Frame

/-!
# Polling the status word

A waiting program reads the status word until it shows the processor idle and ready for commands.
While a number of pretended busy reads is left, every other read shows that.  Once none is left,
the bits have to be set for good.

Main definitions:

- `Status.ShowsAvailable` and `Status.IsAvailable`: the two bits that a waiting program polls are
  set in a word, and in the register.
- `Status.Pollable` and `Status.Alternates`: they are set when no busy read is left, or whenever
  an even number is left.

Main results:

- `Gpu.alternates_apply`: no operation but restoring breaks the alternation.
- `Gpu.pollable_iff_readStatus`: one of the next two reads shows the processor available exactly
  when the bits are set or a busy read is left.
- `Gpu.readStatus_of_not_pollable`: otherwise no read ever does.
-/

namespace GpuCore

namespace Status

/-! ## The register -/

/-- A status word shows the processor idle and ready for commands. -/
def ShowsAvailable (word : UInt32) : Prop :=
  word &&& Mask.available = Mask.available

instance (word : UInt32) : Decidable (ShowsAvailable word) :=
  inferInstanceAs (Decidable (_ = _))

/-- Idle and ready for commands. -/
def IsAvailable (status : Status) : Prop :=
  ShowsAvailable status.word

instance (status : Status) : Decidable status.IsAvailable :=
  inferInstanceAs (Decidable (_ = _))

/-- Available when no busy read is left. -/
def Pollable (status : Status) : Prop :=
  status.busyReads = 0 → status.IsAvailable

/-- Available whenever an even number of busy reads is left. -/
def Alternates (status : Status) : Prop :=
  status.busyReads % 2 = 0 → status.IsAvailable

variable {status before after : Status}

/-- The two bits one by one. -/
theorem isAvailable_iff :
    status.IsAvailable ↔ status.bits Mask.idle = Mask.idle ∧
      status.bits Mask.readyForCommands = Mask.readyForCommands :=
  bits_or_eq_iff status

/-- Zero is even. -/
theorem Alternates.pollable (h : status.Alternates) : status.Pollable := by
  intro hnone
  exact h (by rw [hnone])

/-- An available register alternates whatever is left. -/
theorem IsAvailable.alternates (h : status.IsAvailable) : status.Alternates :=
  fun _ => h

/-- The alternation depends on the busy reads and the polled bits only. -/
theorem Alternates.of_frame (h : before.Alternates) (hreads : after.busyReads = before.busyReads)
    (hbits : after.bits Mask.available = before.bits Mask.available) : after.Alternates := by
  intro heven
  rw [hreads] at heven
  exact hbits.trans (h heven)

/-- The power-on status word shows an available processor. -/
theorem isAvailable_powerOn : ({} : Status).IsAvailable := by
  decide

/-- A read with busy reads left keeps the alternation up, and starts it where there was none. -/
theorem alternates_stepBusy_of_pos (hleft : 0 < status.busyReads) :
    status.stepBusy.Alternates := by
  obtain ⟨word, busyReads⟩ := status
  cases busyReads with
  | zero => contradiction
  | succ left =>
      intro heven
      by_cases hodd : left % 2 = 1
      · simp only [stepBusy, hodd, if_true, unset] at heven
        omega
      · simp only [stepBusy, hodd, if_false]
        exact bits_set_self _

/-- A read without busy reads left leaves the register alone. -/
theorem stepBusy_of_eq_zero (hnone : status.busyReads = 0) : status.stepBusy = status := by
  obtain ⟨word, busyReads⟩ := status
  cases hnone
  rfl

/-- Every read keeps the alternation up, with busy reads left and without. -/
theorem Alternates.stepBusy (h : status.Alternates) : status.stepBusy.Alternates := by
  cases Nat.eq_zero_or_pos status.busyReads with
  | inl hnone => rwa [stepBusy_of_eq_zero hnone]
  | inr hleft => exact alternates_stepBusy_of_pos hleft

end Status

namespace Gpu

/-! ## Operations -/

/-- A chunk leaves the register available. -/
theorem isAvailable_takeChunk (gpu : Gpu) (words : List UInt32) :
    (gpu.takeChunk words).status.IsAvailable :=
  Status.bits_set_self _

variable {gpu : Gpu}

/-- Whatever is written, the processor is available behind it; a refused write changes nothing. -/
theorem alternates_writeData (h : gpu.status.Alternates) (words : List UInt32) :
    (gpu.writeData words).2.status.Alternates := by
  unfold writeData ifInitialized
  split
  · exact (isAvailable_takeChunk gpu words).alternates
  · exact h

/-- A processor that is available is so behind a read of the data channel. -/
theorem isAvailable_readData (h : gpu.status.IsAvailable) (count : Nat) :
    (gpu.readData count).2.status.IsAvailable := by
  have hready : (gpu.readData count).2.status.bits Status.Mask.readyForCommands =
      Status.Mask.readyForCommands := by
    rw [(readFrame_readData gpu count).status _ (by decide)]
    exact (Status.isAvailable_iff.1 h).2
  refine Status.isAvailable_iff.2 ⟨?_, hready⟩
  unfold readData ifInitialized
  split
  · dsimp only
    split
    · exact Status.bits_set_self _
    · exact (Status.isAvailable_iff.1 h).1
  · exact (Status.isAvailable_iff.1 h).1

/-- Such a read does not touch the busy reads. -/
theorem alternates_readData (h : gpu.status.Alternates) (count : Nat) :
    (gpu.readData count).2.status.Alternates := by
  intro heven
  rw [(readFrame_readData gpu count).busyReads] at heven
  exact isAvailable_readData (h heven) count

/-- A control word keeps the busy reads and the polled bits, or resets them. -/
theorem alternates_writeControl (h : gpu.status.Alternates) (word : UInt32) :
    (gpu.writeControl word).status.Alternates := by
  rcases obey_status (gpu.keepControl word) word with hreset | ⟨hreads, hbits⟩
  · rw [writeControl, hreset]
    exact Status.isAvailable_powerOn.alternates
  · exact h.of_frame hreads (hbits _ (by decide))

/-- Counting a status read keeps busy reads and polled bits. -/
theorem countStatusRead_frame (gpu : Gpu) :
    gpu.countStatusRead.status.busyReads = gpu.status.busyReads ∧
      gpu.countStatusRead.status.bits Status.Mask.available =
        gpu.status.bits Status.Mask.available := by
  unfold countStatusRead
  split
  · split
    · exact ⟨rfl, rfl⟩
    · exact ⟨rfl, Status.bits_toggle_of_disjoint gpu.status (by decide)⟩
  · exact ⟨rfl, rfl⟩

/-- A status read keeps the alternation up. -/
theorem alternates_readStatus (h : gpu.status.Alternates) :
    gpu.readStatus.2.status.Alternates := by
  obtain ⟨hreads, hbits⟩ := countStatusRead_frame gpu
  exact (h.of_frame hreads hbits).stepBusy

/-- Following a chain keeps the alternation up.  The processor looks busy while it walks, and every
block on the way leaves it ready for commands. -/
theorem alternates_followChain (h : gpu.status.Alternates) (memory : Array UInt32)
    (address : UInt32) : (gpu.followChain memory address).2.status.Alternates := by
  let ready (gpu : Gpu) : Prop := gpu.status.busyReads % 2 = 0 →
    gpu.status.bits Status.Mask.readyForCommands = Status.Mask.readyForCommands
  have hblock (gpu : Gpu) (words : List UInt32) (hgpu : ready gpu) :
      ready (gpu.takeBlock words) := by
    unfold takeBlock
    split
    · exact hgpu
    · exact fun _ => (Status.isAvailable_iff.1 (isAvailable_takeChunk gpu words)).2
  have hwalk (gpu : Gpu) (hgpu : ready gpu) :
      ready (walkChain memory Chain.blockLimit address gpu) :=
    walkChain_preserves (fun _ _ hvisited => hvisited) hblock memory _ address gpu hgpu
  unfold followChain ifInitialized
  split
  · intro heven
    have hbegun : ready { gpu with
        status := gpu.status.unset Status.Mask.idle, vram := gpu.vram.forgetHistory } := by
      intro heven
      exact (Status.bits_unset_of_disjoint gpu.status (by decide)).trans
        (Status.isAvailable_iff.1 (h heven)).2
    refine Status.isAvailable_iff.2 ⟨Status.bits_set_self _, ?_⟩
    exact (Status.bits_set_of_disjoint _ (by decide)).trans (hwalk _ hbegun heven)
  · exact h

/-- No operation but restoring breaks the alternation. -/
theorem alternates_apply (h : gpu.status.Alternates) (operation : Operation)
    (hlive : operation.restores = false) : (gpu.apply operation).status.Alternates := by
  cases operation with
  | powerOn => exact Status.isAvailable_powerOn.alternates
  | powerOff => exact h
  | reset => exact Status.isAvailable_powerOn.alternates
  | configure settings => exact h
  | writeData words => exact alternates_writeData h words
  | writeControl word => exact alternates_writeControl h word
  | readInto slots =>
      rw [apply, state_readInto]
      exact alternates_readData h slots.length
  | readWord =>
      rw [apply, state_readWord]
      exact alternates_readData h 1
  | readStatus => exact alternates_readStatus h
  | endPeriod pause =>
      have hframe := periodFrame_endPeriod gpu pause
      exact h.of_frame hframe.busyReads (hframe.status _ (by decide))
  | followChain memory address => exact alternates_followChain h memory address
  | freeze mode buffer =>
      cases mode with
      | load => contradiction
      | save =>
          rw [apply, freeze_save_rest]
          exact h
      | info =>
          rw [apply, freeze_info_rest]
          exact h
  | restore record => contradiction
  | adjustPace adjustment => exact h

/-! ## Waiting programs -/

/-- Every status read takes one from the busy reads that are left. -/
theorem busyReads_readStatus (gpu : Gpu) :
    gpu.readStatus.2.status.busyReads = gpu.status.busyReads - 1 := by
  have hcounted := (countStatusRead_frame gpu).1
  rw [← hcounted]
  unfold readStatus
  dsimp only
  generalize gpu.countStatusRead.status = status
  obtain ⟨word, busyReads⟩ := status
  cases busyReads with
  | zero => rfl
  | succ left =>
      simp only [Status.stepBusy]
      split <;> rfl

/-- While busy reads are left, a status read begins the alternation, whatever the bits were. -/
theorem alternates_readStatus_of_pos (hleft : 0 < gpu.status.busyReads) :
    gpu.readStatus.2.status.Alternates := by
  refine Status.alternates_stepBusy_of_pos ?_
  rwa [(countStatusRead_frame gpu).1]

/-- A read without busy reads left shows whether the processor is available. -/
theorem isAvailable_readStatus_of_eq_zero (hnone : gpu.status.busyReads = 0) :
    gpu.readStatus.2.status.IsAvailable ↔ gpu.status.IsAvailable := by
  obtain ⟨hreads, hbits⟩ := countStatusRead_frame gpu
  have hstep : gpu.readStatus.2.status = gpu.countStatusRead.status :=
    Status.stepBusy_of_eq_zero (hreads.trans hnone)
  have hword : gpu.countStatusRead.status.IsAvailable ↔ gpu.status.IsAvailable :=
    iff_of_eq (congrArg (· = Status.Mask.available) hbits)
  rw [hstep, hword]

/-- One of the next two reads shows the processor available exactly when the bits are set or a busy
read is left. -/
theorem pollable_iff_readStatus (gpu : Gpu) :
    gpu.status.Pollable ↔
      Status.ShowsAvailable gpu.readStatus.1 ∨
        Status.ShowsAvailable gpu.readStatus.2.readStatus.1 := by
  have hreads := busyReads_readStatus gpu
  constructor
  · intro hpollable
    cases Nat.eq_zero_or_pos gpu.status.busyReads with
    | inl hnone => exact .inl ((isAvailable_readStatus_of_eq_zero hnone).2 (hpollable hnone))
    | inr hleft =>
        have hfirst := alternates_readStatus_of_pos hleft
        by_cases heven : gpu.readStatus.2.status.busyReads % 2 = 0
        · exact .inl (hfirst heven)
        · -- an odd number is left, so that an even one is left after the second read
          have hleft' : 0 < gpu.readStatus.2.status.busyReads := by omega
          have hsecond := alternates_readStatus_of_pos hleft'
          refine .inr (hsecond ?_)
          rw [busyReads_readStatus]
          omega
  · intro hshown hnone
    cases hshown with
    | inl hfirst => exact (isAvailable_readStatus_of_eq_zero hnone).1 hfirst
    | inr hsecond =>
        have hnone' : gpu.readStatus.2.status.busyReads = 0 := by rw [hreads, hnone]
        have hfirst := (isAvailable_readStatus_of_eq_zero hnone').1 hsecond
        exact (isAvailable_readStatus_of_eq_zero hnone).1 hfirst

/-- Without busy reads left, a register that is not available stays so over status reads. -/
theorem not_pollable_readStatus (h : ¬ gpu.status.Pollable) :
    ¬ gpu.readStatus.2.status.Pollable := by
  intro hpollable
  refine h fun hnone => ?_
  refine (isAvailable_readStatus_of_eq_zero hnone).1 (hpollable ?_)
  rw [busyReads_readStatus, hnone]

/-- When neither of the next two reads shows the processor available, no later one does. -/
theorem readStatus_of_not_pollable (h : ¬ gpu.status.Pollable) (reads : Nat) :
    ¬ Status.ShowsAvailable (gpu.run (List.replicate reads .readStatus)).readStatus.1 := by
  induction reads generalizing gpu with
  | zero => exact fun hshown => h ((pollable_iff_readStatus gpu).2 (.inl hshown))
  | succ reads ih =>
      rw [List.replicate_succ, run_cons]
      exact ih (not_pollable_readStatus h)

end Gpu

end GpuCore
