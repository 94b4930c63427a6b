import GpuCore.Display.Geometry

/-!
# Refresh rates

The video standard and interlacing fix how many periods a second has.  The chip divides its
clock by a number of ticks per period; the rounded rates ignore that.

Main definitions:

- `Pacing.regionalRate`: the rate of a region.
- `Pacing.targetRate`: the custom rate where one is set, else the rate of the region.
-/

namespace GpuCore.Pacing

/-- Ticks of the graphics clock in a second. -/
def chipClock : Float := 33868800.0

/-- Graphics clock ticks in one period. -/
def chipTicks : Region → Bool → Float
  | .ntsc, true => 565031.25
  | .ntsc, false => 566107.5
  | .pal, true => 677343.75
  | .pal, false => 680595.0

/-- The rounded rate of a region. -/
def roundedRate : Region → Float
  | .ntsc => 59.94
  | .pal => 50.0

/-- Periods per second of a region. -/
def regionalRate (region : Region) (interlaced chipAccurate : Bool) : Float :=
  if chipAccurate then chipClock / chipTicks region interlaced else roundedRate region

/-- Custom rates up to this one do not count. -/
def rateEpsilon : Float32 := 0.01

/-- The custom rate where one is set, else the rate of the region. -/
def targetRate (custom : Float32) (region : Region) (interlaced chipAccurate : Bool) : Float :=
  if custom > rateEpsilon then custom.toFloat else regionalRate region interlaced chipAccurate

end GpuCore.Pacing
