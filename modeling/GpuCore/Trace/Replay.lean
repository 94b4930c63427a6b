import GpuCore.Gpu.DataChannel
import GpuCore.Gpu.Vsync
import GpuCore.Settings.File
import GpuCore.Trace.Command
import GpuCore.Trace.Report

/-!
# Replays

A trace is replayed on a processor that was just switched on.  Its clock shows nanoseconds and
stands still but for the pacer.

Main definitions:

- `Command.perform` and `run`: the effect of a command and of a trace.
- `replay`: the final state for texts of settings and trace.
-/

namespace GpuCore.Trace

/-! ## Commands -/

/-- The effect of a command. -/
def Command.perform (gpu : Gpu) : Command → Gpu
  | data words => (gpu.writeData words).2
  | control word => gpu.writeControl word
  | vsync => gpu.endPeriod 0

/-- Ticks of the clock in a second. -/
def clockRate : UInt64 := 1000000000

/-- The state after a trace. -/
def run (settings : Settings) (commands : List Command) : Gpu :=
  let pacer := Pacing.Pacer.create settings.pacing clockRate
  commands.foldl Command.perform (Gpu.create settings pacer).powerOn

/-! ## Texts -/

/-- Why there was no replay. -/
inductive ReplayError where
  /-- The text of the settings is malformed. -/
  | settings
  /-- There is no trace. -/
  | missingTrace
  | trace (failure : Failure)
deriving DecidableEq, Repr, Inhabited

/-- What is shown for an error. -/
def ReplayError.message : ReplayError → String
  | settings => "malformed settings"
  | missingTrace => "no trace"
  | trace failure => failure.message

/-- A completed replay. -/
structure Replay where
  /-- Number of commands. -/
  commands : Nat
  /-- The final state. -/
  gpu : Gpu
deriving Inhabited

/-- The settings of a text, or the defaults without one.  A replay `unlimited` does not wait
for the end of a period. -/
def settingsOf (text : Option String) (unlimited : Bool) : Except ReplayError Settings := do
  let settings ←
    match text with
    | none => pure {}
    | some text => (Settings.ofText? text).elim (throw .settings) pure
  if unlimited then
    return { settings with pacing := { settings.pacing with frameLimit := false } }
  else
    return settings

/-- Replay the trace in a text.  The settings are read first. -/
def replay (settings : Option String) (unlimited : Bool) (trace : Option String) :
    Except ReplayError Replay := do
  let settings ← settingsOf settings unlimited
  let text ← trace.elim (throw .missingTrace) pure
  let commands ← (readAll text.toList).mapError .trace
  return ⟨commands.length, run settings commands⟩

/-- The report on a completed replay. -/
def Replay.report (replay : Replay) : Report :=
  replay.gpu.report replay.commands

end GpuCore.Trace
