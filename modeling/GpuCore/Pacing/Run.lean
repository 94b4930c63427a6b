import GpuCore.Operation

/-!
# Runs of a pacer

A pacer is asked at the end of every period.  Between two periods time passes, the user changes the
speed, a display mode selects a rate, and new settings are taken over.

Main definitions:

- `Pacing.Change` and `Pacing.Step`: what happens to a pacer between two periods, and at their end.
- `Pacer.step` and `Pacer.run`: the pacer after a step and after a list of them.
- `Pacing.Wait` and `Pacer.waits`: the waits along a list of steps, each with the pacer that it
  found and its answer.
-/

namespace GpuCore.Pacing

/-! ## Steps -/

/-- What happens to a pacer between two periods. -/
inductive Change where
  | adjust (adjustment : Adjustment)
  /-- The rate of a display mode is selected. -/
  | setMode (custom : Float32) (region : Region) (interlaced : Bool)
  | configure (settings : PacingSettings)
deriving Inhabited

/-- Whether a change leaves rate and settings alone, and does not take the time anew. -/
def Change.isSteady : Change → Bool
  | adjust .recapture | setMode _ _ _ | configure _ => false
  | adjust _ => true

/-- One thing that happens to a pacer: the end of a period, or something else. -/
inductive Step where
  | wait (blocking odd : Bool) (pause : UInt64)
  | other (change : Change)
deriving Inhabited

/-- Whether a step is no reset and no change of rate or settings. -/
def Step.isSteady : Step → Bool
  | .wait _ _ _ => true
  | .other change => change.isSteady

/-- A wait: the pacer that it found, and its answer. -/
structure Wait where
  found : Pacer
  action : Action
deriving Inhabited

namespace Pacer

/-! ## Runs -/

/-- The pacer after a change. -/
def change (pacer : Pacer) : Change → Pacer
  | .adjust adjustment => pacer.adjust adjustment
  | .setMode custom region interlaced => pacer.setMode custom region interlaced
  | .configure settings => pacer.configure settings

/-- The pacer after a step. -/
def step (pacer : Pacer) : Step → Pacer
  | .wait blocking odd pause => (pacer.wait blocking odd pause).2
  | .other change => pacer.change change

/-- The pacer after a list of steps. -/
def run (pacer : Pacer) (steps : List Step) : Pacer :=
  steps.foldl step pacer

/-- The waits along a list of steps, in order. -/
def waits (pacer : Pacer) : List Step → List Wait
  | [] => []
  | .wait blocking odd pause :: steps =>
    let (action, after) := pacer.wait blocking odd pause
    ⟨pacer, action⟩ :: after.waits steps
  | .other change :: steps => (pacer.change change).waits steps

@[simp]
theorem run_nil (pacer : Pacer) : pacer.run [] = pacer :=
  rfl

@[simp]
theorem run_cons (pacer : Pacer) (step : Step) (steps : List Step) :
    pacer.run (step :: steps) = (pacer.step step).run steps :=
  rfl

@[simp]
theorem waits_nil (pacer : Pacer) : pacer.waits [] = [] :=
  rfl

@[simp]
theorem waits_wait (pacer : Pacer) (blocking odd : Bool) (pause : UInt64) (steps : List Step) :
    pacer.waits (.wait blocking odd pause :: steps) =
      ⟨pacer, (pacer.wait blocking odd pause).1⟩ ::
        (pacer.wait blocking odd pause).2.waits steps :=
  rfl

@[simp]
theorem waits_other (pacer : Pacer) (change : Change) (steps : List Step) :
    pacer.waits (.other change :: steps) = (pacer.change change).waits steps :=
  rfl

end Pacer

end GpuCore.Pacing
