import GpuCore.Pacing.Rate
import GpuCore.Pacing.Skip

/-!
# The frame pacer

At the end of every period the pacer is asked whether to render the next one.  It waits until
the period is over, measures how late the program runs and decides how many of the following
periods are skipped.  Time is counted in ticks of a clock that the pacer owns: waiting moves the
clock to the deadline or past the pause that blocks it, and everything else that takes time
advances it from outside.

Main definitions:

- `Timing`: the rate of the current mode and the ticks that follow from it.
- `Pacer`: clock, speed switches, timing and the state of the current period.
- `Pacer.wait`: the end of a period.
-/

namespace GpuCore.Pacing

/-! ## Timing -/

/-- The rate of a display mode, in ticks of a clock. -/
structure Timing where
  interlaced : Bool
  /-- Periods per second. -/
  rate : Float
  /-- Ticks in a period, at least one. -/
  period : UInt64
  /-- Seven eighths of a period. -/
  timeout : UInt64
deriving Inhabited

/-- The timing of a display mode on a clock of the given resolution. -/
def Timing.ofMode (ticksPerSecond : UInt64) (chipAccurate : Bool) (custom : Float32)
    (region : Region) (interlaced : Bool) : Timing :=
  let rate := targetRate custom region interlaced chipAccurate
  let period := max (ticksPerSecond.toFloat / rate).toUInt64 1
  { interlaced, rate, period, timeout := period * 7 / 8 }

/-! ## State -/

/-- Speed of the emulation, as the user selected it. -/
inductive Speed where
  | normal
  | fast
  | slow
  | paused
deriving DecidableEq, Repr, Inhabited

/-- Whether the coming period is rendered. -/
inductive Action where
  | display
  | skip
deriving DecidableEq, Repr, Inhabited

/-- Clock, speed switches and the state of the current period. -/
structure Pacer where
  /-- Current time. -/
  clock : UInt64
  ticksPerSecond : UInt64
  fast : Bool
  slow : Bool
  paused : Bool
  skipMode : SkipMode
  chipAccurate : Bool
  timing : Timing
  /-- Start of the current period. -/
  reference : UInt64
  /-- Ticks by which the last period was late. -/
  late : UInt64
  /-- Periods still to be skipped. -/
  skipsLeft : Nat
  /-- Periods of fast-forward since the last rendered one, counted from 0 to 3. -/
  fastCount : Nat
  /-- The next wait only takes the time. -/
  recapture : Bool
deriving Inhabited

namespace Pacer

/-- Take the time at the next wait, and forget lateness and pending skips. -/
def reset (pacer : Pacer) : Pacer :=
  { pacer with recapture := true, skipsLeft := 0, fastCount := 0, late := 0 }

/-- Select the rate of a display mode. -/
def setMode (pacer : Pacer) (custom : Float32) (region : Region) (interlaced : Bool) : Pacer :=
  reset { pacer with
    timing :=
      Timing.ofMode pacer.ticksPerSecond pacer.chipAccurate custom region interlaced }

/-- A pacer on a clock that shows zero, set to the progressive rate of the default region. -/
def create (settings : PacingSettings) (ticksPerSecond : UInt64) : Pacer where
  clock := 0
  ticksPerSecond := ticksPerSecond
  fast := false
  slow := false
  paused := false
  skipMode := settings.skipMode
  chipAccurate := settings.chipAccurate
  timing :=
    Timing.ofMode ticksPerSecond settings.chipAccurate settings.customRate .ntsc false
  reference := 0
  late := 0
  skipsLeft := 0
  fastCount := 0
  recapture := true

/-- Take over new settings.  The rate follows when the display mode is set next. -/
def configure (pacer : Pacer) (settings : PacingSettings) : Pacer :=
  { pacer with
    skipMode := settings.skipMode, chipAccurate := settings.chipAccurate, skipsLeft := 0 }

/-- Let time pass. -/
def advance (pacer : Pacer) (ticks : UInt64) : Pacer :=
  { pacer with clock := pacer.clock + ticks }

/-- Switch fast-forward. -/
def setFast (pacer : Pacer) (enabled : Bool) : Pacer :=
  { pacer with fast := enabled }

/-- Flip slow motion. -/
def toggleSlow (pacer : Pacer) : Pacer :=
  { pacer with slow := !pacer.slow }

/-- Switch the pause. -/
def setPaused (pacer : Pacer) (paused : Bool) : Pacer :=
  { pacer with paused := paused }

/-- The speed in force: a pause wins over fast-forward and that over slow motion. -/
def speed (pacer : Pacer) : Speed :=
  if pacer.paused then .paused
  else if pacer.fast then .fast
  else if pacer.slow then .slow
  else .normal

/-! ## The end of a period -/

/-- Periods of fast-forward per rendered one. -/
def fastRatio : Nat := 4

/-- Periods of lateness beyond which the pacer gives up catching up. -/
def resyncPeriods : UInt64 := 8

/-- A pause is lifted after `ticks`. -/
def resume (pacer : Pacer) (ticks : UInt64) : Pacer :=
  (pacer.advance ticks).setPaused false

/-- Take the time as the start of a period. -/
def capture (pacer : Pacer) : Pacer :=
  { pacer with reference := pacer.clock }

/-- The pause that blocks a wait is over. -/
def waitPaused (pacer : Pacer) (pause : UInt64) : Action × Pacer :=
  (.display, { (pacer.resume pause).capture with late := 0, skipsLeft := 0 })

/-- A period of fast-forward. -/
def waitFast (pacer : Pacer) : Action × Pacer :=
  let count := (pacer.fastCount + 1) % fastRatio
  (if count = 0 then .display else .skip, { pacer.capture with fastCount := count })

/-- Measure a period that ends at `deadline`.  Without `blocking` it counts as elapsed at
once; else the clock moves on to the deadline unless that has passed. -/
def elapse (pacer : Pacer) (blocking : Bool) (deadline : UInt64) : Pacer :=
  if blocking then
    let clock := max pacer.clock deadline
    let late := clock - deadline
    if late > pacer.timing.period * resyncPeriods then
      { pacer with clock := clock, reference := clock, late := 0 }
    else
      { pacer with clock := clock, reference := deadline, late := late }
  else
    { pacer.capture with late := 0 }

/-- A period of the given length at normal speed or in slow motion. -/
def waitTimed (pacer : Pacer) (blocking odd : Bool) (duration : UInt64) : Action × Pacer :=
  match pacer.skipsLeft with
  | left + 1 =>
    (.skip, { pacer with skipsLeft := left, reference := pacer.reference + duration })
  | 0 =>
    let pacer := pacer.elapse blocking (pacer.reference + duration)
    (.display,
     { pacer with
       skipsLeft :=
         skips pacer.skipMode pacer.late pacer.timing.period pacer.timing.timeout
           pacer.timing.interlaced odd })

/-- The end of a period.  `blocking` makes the pacer wait for it, `odd` is the current field,
and `pause` is the time after which a pause that blocks the wait is lifted.  A wait that takes the
time returns before it looks at the speed, so that a pause in force stays so. -/
def wait (pacer : Pacer) (blocking odd : Bool) (pause : UInt64) : Action × Pacer :=
  if pacer.recapture then
    (.display, { pacer.capture with recapture := false })
  else
    match pacer.speed with
    | .paused => pacer.waitPaused pause
    | .fast => pacer.waitFast
    | .slow => pacer.waitTimed blocking odd (pacer.timing.period * 2)
    | .normal => pacer.waitTimed blocking odd pacer.timing.period

end Pacer

end GpuCore.Pacing
