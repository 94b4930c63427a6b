import GpuCore.Pacing.Pacer

/-!
# What a wait does

A wait takes the time, ends a pause, counts a period of fast-forward, skips a period or measures
one.  Rate, options and speed switches stay as they are, but for a pause that blocks the wait.

Main definitions:

- `Pacer.Waited`: the kinds of waits, as far as the skipping of periods is concerned.

Main results:

- `Pacer.wait_rest`: what a wait cannot change.
- `Pacer.paused_wait`: which pause a wait lifts.
- `Pacer.waited`: every wait is of one of these kinds.
-/

namespace GpuCore.Pacing.Pacer

variable (pacer : Pacer) (blocking odd : Bool) (pause : UInt64)

/-! ## What stays -/

/-- A period that elapses changes clock, start of the next period and lateness. -/
theorem elapse_rest (deadline : UInt64) :
    pacer.elapse blocking deadline =
      { pacer with
        clock := (pacer.elapse blocking deadline).clock
        reference := (pacer.elapse blocking deadline).reference
        late := (pacer.elapse blocking deadline).late } := by
  unfold elapse
  dsimp only
  split
  · split <;> rfl
  · rfl

/-- A timed wait changes the number of skips as well. -/
theorem waitTimed_rest (duration : UInt64) :
    (pacer.waitTimed blocking odd duration).2 =
      { pacer with
        clock := (pacer.waitTimed blocking odd duration).2.clock
        reference := (pacer.waitTimed blocking odd duration).2.reference
        late := (pacer.waitTimed blocking odd duration).2.late
        skipsLeft := (pacer.waitTimed blocking odd duration).2.skipsLeft } := by
  unfold waitTimed
  split
  · rfl
  · dsimp only
    rw [elapse_rest]

/-- A wait changes clock and pause, the state of the current period and the counts of skips. -/
theorem wait_rest :
    (pacer.wait blocking odd pause).2 =
      { pacer with
        clock := (pacer.wait blocking odd pause).2.clock
        paused := (pacer.wait blocking odd pause).2.paused
        reference := (pacer.wait blocking odd pause).2.reference
        late := (pacer.wait blocking odd pause).2.late
        skipsLeft := (pacer.wait blocking odd pause).2.skipsLeft
        fastCount := (pacer.wait blocking odd pause).2.fastCount
        recapture := (pacer.wait blocking odd pause).2.recapture } := by
  unfold wait
  split
  · rfl
  · split
    · rfl
    · rfl
    · rw [waitTimed_rest]
    · rw [waitTimed_rest]

/-- A wait keeps the rate. -/
@[simp]
theorem timing_wait : (pacer.wait blocking odd pause).2.timing = pacer.timing := by
  rw [wait_rest]

/-- Behind a wait the time has been taken. -/
@[simp]
theorem recapture_wait : (pacer.wait blocking odd pause).2.recapture = false := by
  unfold wait
  split
  · rfl
  · next htaken =>
      have hcaptured : pacer.recapture = false := eq_false_of_ne_true htaken
      split
      · exact hcaptured
      · exact hcaptured
      · rw [waitTimed_rest]
        exact hcaptured
      · rw [waitTimed_rest]
        exact hcaptured

/-- A pause wins over the other speeds. -/
theorem speed_eq_paused_iff : pacer.speed = .paused ↔ pacer.paused = true := by
  unfold speed
  cases pacer.paused with
  | true => exact ⟨fun _ => rfl, fun _ => rfl⟩
  | false =>
      cases pacer.fast <;> cases pacer.slow <;> simp

/-- A wait lifts the pause that blocks it.  Only a wait that takes the time is not blocked, and it
leaves the pause in force. -/
theorem paused_wait :
    (pacer.wait blocking odd pause).2.paused = (pacer.recapture && pacer.paused) := by
  unfold wait
  split
  · next hrecapture =>
      rw [hrecapture, Bool.true_and]
      rfl
  · next htaken =>
      rw [eq_false_of_ne_true htaken, Bool.false_and]
      have hrunning (hspeed : pacer.speed ≠ .paused) : pacer.paused = false :=
        eq_false_of_ne_true fun hpaused => hspeed (pacer.speed_eq_paused_iff.2 hpaused)
      split
      · rfl
      · next hspeed => exact hrunning (by rw [hspeed]; nofun)
      · next hspeed =>
          rw [waitTimed_rest]
          exact hrunning (by rw [hspeed]; nofun)
      · next hspeed =>
          rw [waitTimed_rest]
          exact hrunning (by rw [hspeed]; nofun)

/-! ## Kinds of waits -/

/-- What a wait does to the skipping of periods, by the kind of the wait. -/
inductive Waited (before : Pacer) : Action → Pacer → Prop
  /-- The time is taken. -/
  | captured {after : Pacer} (hrecapture : before.recapture = true)
      (hskips : after.skipsLeft = before.skipsLeft) (hfast : after.fastCount = before.fastCount) :
      Waited before .display after
  /-- A pause is over. -/
  | resumed {after : Pacer} (hrecapture : before.recapture = false)
      (hspeed : before.speed = .paused) (hskips : after.skipsLeft = 0)
      (hfast : after.fastCount = before.fastCount) : Waited before .display after
  /-- A period of fast-forward is rendered. -/
  | fastShown {after : Pacer} (hrecapture : before.recapture = false)
      (hspeed : before.speed = .fast) (hskips : after.skipsLeft = before.skipsLeft)
      (hcount : (before.fastCount + 1) % fastRatio = 0) (hfast : after.fastCount = 0) :
      Waited before .display after
  /-- A period of fast-forward is skipped. -/
  | fastSkipped {after : Pacer} (hrecapture : before.recapture = false)
      (hspeed : before.speed = .fast) (hskips : after.skipsLeft = before.skipsLeft)
      (hcount : (before.fastCount + 1) % fastRatio ≠ 0)
      (hfast : after.fastCount = (before.fastCount + 1) % fastRatio) : Waited before .skip after
  /-- A period is skipped to catch up. -/
  | caughtUp {after : Pacer} (hrecapture : before.recapture = false)
      (hspeed : before.speed = .slow ∨ before.speed = .normal)
      (hskips : before.skipsLeft = after.skipsLeft + 1)
      (hfast : after.fastCount = before.fastCount) : Waited before .skip after
  /-- A period is measured, and the skips that follow it are decided. -/
  | measured {after : Pacer} (late : UInt64) (odd : Bool) (hrecapture : before.recapture = false)
      (hspeed : before.speed = .slow ∨ before.speed = .normal) (hnone : before.skipsLeft = 0)
      (hskips : after.skipsLeft = skips before.skipMode late before.timing.period
        before.timing.timeout before.timing.interlaced odd)
      (hfast : after.fastCount = before.fastCount) : Waited before .display after

/-- A timed wait skips a period or measures one. -/
theorem waited_waitTimed (duration : UInt64) (hrecapture : pacer.recapture = false)
    (hspeed : pacer.speed = .slow ∨ pacer.speed = .normal) :
    Waited pacer (pacer.waitTimed blocking odd duration).1
      (pacer.waitTimed blocking odd duration).2 := by
  unfold waitTimed
  split
  · next left hleft => exact .caughtUp hrecapture hspeed hleft rfl
  · next hnone =>
      have hrest := pacer.elapse_rest blocking (pacer.reference + duration)
      refine .measured (pacer.elapse blocking (pacer.reference + duration)).late odd hrecapture
        hspeed hnone ?skips ?fast
      case skips =>
          dsimp only
          rw [hrest]
      case fast =>
          dsimp only
          rw [hrest]

/-- Every wait is of one of these kinds. -/
theorem waited :
    Waited pacer (pacer.wait blocking odd pause).1 (pacer.wait blocking odd pause).2 := by
  unfold wait
  split
  · next hrecapture => exact .captured hrecapture rfl rfl
  · next htaken =>
      have hrecapture : pacer.recapture = false := eq_false_of_ne_true htaken
      split
      · next hspeed => exact .resumed hrecapture hspeed rfl rfl
      · next hspeed =>
          unfold waitFast
          dsimp only
          split
          · next hcount => exact .fastShown hrecapture hspeed rfl hcount hcount
          · next hcount => exact .fastSkipped hrecapture hspeed rfl hcount rfl
      · next hspeed => exact waited_waitTimed pacer blocking odd _ hrecapture (.inl hspeed)
      · next hspeed => exact waited_waitTimed pacer blocking odd _ hrecapture (.inr hspeed)

end GpuCore.Pacing.Pacer
