import GpuCore.Proofs.Alike.Relation
import GpuCore.Proofs.Freeze.Replay
import GpuCore.Proofs.Operation.Frame
import GpuCore.Proofs.Pacing.Wait

/-!
# What keeps the setup of a processor

Settings and the resolution of the clock are not part of a record, and no word changes them.  A
pacer that was made for the settings of its processor goes on following them, so that two such
processors have the same setup as soon as they have the same settings and clocks of the same
resolution.

Main definitions:

- `Gpu.PacedBySettings`: the pacer counts the rates that the settings ask for.

Main results:

- `Gpu.sameSetup_apply`: only new settings change the setup.
- `Gpu.PacedBySettings.run`: no operation parts a pacer from the settings.
- `Gpu.PacedBySettings.sameSetup`: when two processors have the same setup.
-/

namespace GpuCore.Gpu

/-! ## The setup -/

theorem SameSetup.refl (gpu : Gpu) : SameSetup gpu gpu :=
  ⟨rfl, rfl, rfl⟩

theorem SameSetup.symm {left right : Gpu} (h : SameSetup left right) : SameSetup right left :=
  ⟨h.settings.symm, h.ticksPerSecond.symm, h.chipAccurate.symm⟩

theorem SameSetup.trans {first second third : Gpu} (h : SameSetup first second)
    (h' : SameSetup second third) : SameSetup first third where
  settings := h.settings.trans h'.settings
  ticksPerSecond := h.ticksPerSecond.trans h'.ticksPerSecond
  chipAccurate := h.chipAccurate.trans h'.chipAccurate

/-- The data channel does not reach settings and pacer. -/
theorem DataFrame.sameSetup {changed : UInt32} {before after : Gpu}
    (h : DataFrame changed before after) : SameSetup after before where
  settings := h.settings
  ticksPerSecond := by rw [h.pacer]
  chipAccurate := by rw [h.pacer]

/-- Telling the renderer keeps the setup. -/
theorem sameSetup_emitMoved (gpu : Gpu) (moved : Bool) : SameSetup (gpu.emitMoved moved) gpu := by
  unfold emitMoved
  split <;> exact ⟨rfl, rfl, rfl⟩

/-- A control word may select a new rate, but neither settings nor resolution. -/
theorem sameSetup_writeControl (gpu : Gpu) (word : UInt32) :
    SameSetup (gpu.writeControl word) gpu := by
  have hkept : SameSetup (gpu.keepControl word) gpu := ⟨rfl, rfl, rfl⟩
  refine SameSetup.trans ?_ hkept
  refine obey_cases (motive := fun after => SameSetup after (gpu.keepControl word)) _ word
    ?reset ?drop ?acknowledge ?enable ?direct ?position ?columns ?lines ?mode ?query ?ignore
    <;> intro _
  case reset => exact ⟨rfl, rfl, rfl⟩
  case drop => exact ⟨rfl, rfl, rfl⟩
  case acknowledge => exact ⟨rfl, rfl, rfl⟩
  case enable => exact ⟨rfl, rfl, rfl⟩
  case direct => exact ⟨rfl, rfl, rfl⟩
  case position => exact (sameSetup_emitMoved _ _).trans ⟨rfl, rfl, rfl⟩
  case columns => exact (sameSetup_emitMoved _ _).trans ⟨rfl, rfl, rfl⟩
  case lines => exact (sameSetup_emitMoved _ _).trans ⟨rfl, rfl, rfl⟩
  case mode =>
      simp only [setDisplayMode]
      split <;> exact ⟨rfl, rfl, rfl⟩
  case query => exact ⟨rfl, rfl, rfl⟩
  case ignore => exact .refl _

/-- Applying a mode keeps the setup. -/
theorem sameSetup_applyMode (gpu : Gpu) : SameSetup gpu.applyMode gpu := by
  unfold applyMode
  split <;> exact ⟨rfl, rfl, rfl⟩

/-- The end of a period keeps the setup: waiting measures time, but neither selects a rate nor
replaces the clock. -/
theorem sameSetup_endPeriod (gpu : Gpu) (pause : UInt64) :
    SameSetup (gpu.endPeriod pause) gpu := by
  obtain ⟨blocking, odd, hpacer⟩ := pacer_endPeriod gpu pause
  rw [Pacing.Pacer.wait_rest] at hpacer
  refine ⟨?settings, ?ticks, ?chip⟩
  case settings => rw [(periodFrame_endPeriod gpu pause).rest]
  case ticks => rw [hpacer]
  case chip => rw [hpacer]

/-- Thawing keeps the setup, which is no part of a record. -/
theorem sameSetup_thaw (gpu : Gpu) (record : Freeze.Record) :
    SameSetup (gpu.thaw record) gpu := by
  have hset (gpu : Gpu) : SameSetup (gpu.setRegisters record) gpu := ⟨rfl, rfl, rfl⟩
  have hreplayed : SameSetup (replayOrder.foldl (replaySlot record.control)
      { gpu.setRegisters record with vram := gpu.vram.load record.pixels }) gpu :=
    replay_preserves (P := fun after => SameSetup after gpu)
      (fun after word h => (sameSetup_writeControl after word).trans h) record.control replayOrder
      ⟨rfl, rfl, rfl⟩
  exact ((hset _).trans (sameSetup_applyMode _)).trans hreplayed

/-- Only new settings change the setup. -/
theorem sameSetup_apply (gpu : Gpu) (operation : Operation)
    (hkept : ∀ settings, operation ≠ .configure settings) :
    SameSetup (gpu.apply operation) gpu := by
  have hrefl : SameSetup gpu gpu := .refl gpu
  have hread (count : Nat) : SameSetup (gpu.readData count).2 gpu := by
    rw [(readFrame_readData gpu count).rest]
    exact ⟨rfl, rfl, rfl⟩
  have hthaw (other : Gpu) (record : Freeze.Record) (h : SameSetup other gpu) :
      SameSetup (other.thaw record) gpu := (sameSetup_thaw other record).trans h
  cases operation with
  | powerOn => exact ⟨rfl, rfl, rfl⟩
  | powerOff => exact ⟨rfl, rfl, rfl⟩
  | reset => exact ⟨rfl, rfl, rfl⟩
  | configure settings => exact absurd rfl (hkept settings)
  | writeData words => exact (dataFrame_writeData gpu words).sameSetup
  | writeControl word => exact sameSetup_writeControl gpu word
  | readInto slots =>
      rw [apply, state_readInto]
      exact hread slots.length
  | readWord =>
      rw [apply, state_readWord]
      exact hread 1
  | readStatus =>
      rw [apply, readStatus_rest]
      exact ⟨rfl, rfl, rfl⟩
  | endPeriod pause => exact sameSetup_endPeriod gpu pause
  | followChain memory address => exact (dataFrame_followChain gpu memory address).sameSetup
  | freeze mode buffer =>
      exact freeze_preserves hthaw (fun _ _ h => ⟨h.settings, h.ticksPerSecond, h.chipAccurate⟩)
        hrefl mode buffer
  | restore record => exact restore_preserves hthaw hrefl record
  | adjustPace adjustment => cases adjustment <;> exact ⟨rfl, rfl, rfl⟩

/-! ## Pacers that follow the settings -/

/-- The pacer counts the rates that the settings of its processor ask for. -/
def PacedBySettings (gpu : Gpu) : Prop :=
  gpu.pacer.chipAccurate = gpu.settings.pacing.chipAccurate

namespace PacedBySettings

variable {gpu after : Gpu}

/-- With such pacers, the same settings and clocks of the same resolution are the same setup. -/
theorem sameSetup {left right : Gpu} (hleft : PacedBySettings left) (hright : PacedBySettings right)
    (hsettings : left.settings = right.settings)
    (hticks : left.pacer.ticksPerSecond = right.pacer.ticksPerSecond) : SameSetup left right where
  settings := hsettings
  ticksPerSecond := hticks
  chipAccurate := by rw [hleft, hright, hsettings]

/-- Whether a pacer keeps to the settings is decided by the setup. -/
theorem of_sameSetup (h : PacedBySettings gpu) (hsame : SameSetup after gpu) :
    PacedBySettings after := by
  rw [PacedBySettings, hsame.chipAccurate, hsame.settings]
  exact h

/-- No operation parts a pacer from the settings. -/
theorem apply (h : PacedBySettings gpu) (operation : Operation) :
    PacedBySettings (gpu.apply operation) := by
  cases operation with
  | configure settings => exact rfl
  | _ => exact h.of_sameSetup (sameSetup_apply gpu _ nofun)

/-- Nor does any run, by induction on the operations. -/
theorem run (h : PacedBySettings gpu) (operations : List Operation) :
    PacedBySettings (gpu.run operations) := by
  induction operations generalizing gpu with
  | nil => exact h
  | cons operation operations ih => exact ih (h.apply operation)

end PacedBySettings

end GpuCore.Gpu
