import GpuCore.Settings

/-!
# Skipping periods

After a late period the pacer may let the following periods pass without rendering.
Interlaced pictures come in pairs of fields, so that there the decision is taken on even fields
only and an even number of fields is skipped.

Main definitions:

- `Pacing.standardSkips`: skip as many periods as were lost.
- `Pacing.alternateSkips`: skip one period, or one pair of fields.

Main results:

- `Pacing.standardSkips_le`, `Pacing.alternateSkips_le` and `Pacing.skips_le`: the numbers of skips
  are bounded.
- `Pacing.skips_even`: fields are skipped in pairs.
-/

namespace GpuCore.Pacing

/-- Periods skipped at most, in interlaced output. -/
def maxInterlacedSkips : Nat := 4

/-- Periods skipped at most, in progressive output. -/
def maxProgressiveSkips : Nat := 3

/-- Periods to skip after `late` ticks, as many as were lost.  Progressive output forgives 15
hundredths less than a full period. -/
def standardSkips (late period : UInt64) (interlaced odd : Bool) : Nat :=
  if period = 0 then
    0
  else
    let periods := late.toFloat / period.toFloat
    if interlaced then
      if odd then
        0
      else
        let count := min periods.floor.toUInt32.toNat maxInterlacedSkips
        count + count % 2
    else
      min (periods + 0.15).floor.toUInt32.toNat maxProgressiveSkips

/-- Periods to skip after `late` ticks: none up to an eighth of `timeout`, then one period or
one pair of fields. -/
def alternateSkips (late timeout : UInt64) (interlaced odd : Bool) : Nat :=
  if late ≤ timeout / 8 then
    0
  else
    match interlaced, odd with
    | false, _ => 1
    | true, false => 2
    | true, true => 0

/-- Periods to skip with a given strategy. -/
def skips (mode : SkipMode) (late period timeout : UInt64) (interlaced odd : Bool) : Nat :=
  match mode with
  | .none => 0
  | .standard => standardSkips late period interlaced odd
  | .alternate => alternateSkips late timeout interlaced odd

/-! ## Bounds -/

/-- The standard strategy skips a bounded number of periods. -/
theorem standardSkips_le (late period : UInt64) (interlaced odd : Bool) :
    standardSkips late period interlaced odd ≤
      if interlaced then maxInterlacedSkips else maxProgressiveSkips := by
  unfold standardSkips
  cases interlaced <;> cases odd <;> simp [maxInterlacedSkips, maxProgressiveSkips] <;>
    split <;> omega

/-- The alternate strategy skips a period or a pair of fields at most. -/
theorem alternateSkips_le (late timeout : UInt64) (interlaced odd : Bool) :
    alternateSkips late timeout interlaced odd ≤ if interlaced then 2 else 1 := by
  unfold alternateSkips
  cases interlaced <;> cases odd <;> simp <;> split <;> omega

/-- No strategy skips more periods than the standard one may. -/
theorem skips_le (mode : SkipMode) (late period timeout : UInt64) (interlaced odd : Bool) :
    skips mode late period timeout interlaced odd ≤
      if interlaced then maxInterlacedSkips else maxProgressiveSkips := by
  cases mode with
  | none => exact Nat.zero_le _
  | standard => exact standardSkips_le late period interlaced odd
  | alternate =>
      refine Nat.le_trans (alternateSkips_le late timeout interlaced odd) ?_
      cases interlaced <;> decide

/-- Interlaced output skips whole pairs of fields, with any strategy. -/
theorem skips_even (mode : SkipMode) (late period timeout : UInt64) (odd : Bool) :
    skips mode late period timeout true odd % 2 = 0 := by
  cases mode with
  | none => rfl
  | standard =>
      simp only [skips, standardSkips, if_true]
      split
      · rfl
      · split
        · rfl
        · omega
  | alternate =>
      simp only [skips, alternateSkips]
      split
      · rfl
      · cases odd <;> rfl

end GpuCore.Pacing
