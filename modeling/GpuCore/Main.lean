import Std.Time.DateTime
import GpuCore.Snapshot.File
import GpuCore.Trace.Replay

/-!
# Command line

Replays a recorded trace and prints a report on the final state.

Main definitions:

- `Options` and `Options.ofArguments?`: the command line.
- `main`: read the files, replay, write the snapshot and print the report.
-/

namespace GpuCore.CommandLine

/-! ## Options -/

/-- What the command line asks for. -/
structure Options where
  /-- Path of the trace. -/
  trace : Option String := none
  /-- Path of the settings. -/
  settings : Option String := none
  /-- Path of the snapshot to write. -/
  snapshot : Option String := none
  /-- Do not wait for the end of a period. -/
  unlimited : Bool := false
deriving DecidableEq, Repr, Inhabited

/-- The path of a trace, which is given once. -/
def Options.setTrace? (options : Options) (path : String) : Option Options :=
  if options.trace.isSome || path.startsWith "-" then none
  else some { options with trace := some path }

/-- The options of further arguments. -/
def Options.ofArguments? (options : Options) : List String → Option Options
  | [] => if options.trace.isSome then some options else none
  | "--no-limit" :: arguments => ofArguments? { options with unlimited := true } arguments
  | "-c" :: path :: arguments => ofArguments? { options with settings := some path } arguments
  | "--config" :: path :: arguments =>
    ofArguments? { options with settings := some path } arguments
  | "-s" :: path :: arguments => ofArguments? { options with snapshot := some path } arguments
  | "--snapshot" :: path :: arguments =>
    ofArguments? { options with snapshot := some path } arguments
  | path :: arguments => (options.setTrace? path).bind fun options => ofArguments? options arguments

/-- The text shown for a malformed command line. -/
def usage : String :=
  "usage: TRACE_FILE [-c | --config FILE] [-s | --snapshot FILE] [--no-limit]"

/-! ## Files -/

/-- The current time in universal time. -/
def now : IO Calendar.Instant := do
  let stamp ← Std.Time.Timestamp.now
  let seconds := stamp.val.second.val
  let date := Std.Time.PlainDate.ofEpochDay ⟨seconds / 86400⟩
  return {
    date := ⟨date.year, date.month.val.toNat, date.day.val.toNat⟩
    second := (seconds % 86400).toNat
    nanos := stamp.val.nano.val.toNat }

/-- Write a snapshot of a state to a file. -/
def writeSnapshot (gpu : Gpu) (path : String) : IO Unit := do
  match gpu.capture (← now) with
  | .ok snapshot => IO.FS.writeBinFile path ⟨snapshot.encode.toArray⟩
  | .error fault => throw (IO.userError fault.message)

/-- Replay what the options name. -/
def replayFiles (options : Options) : IO Unit := do
  let settings ← options.settings.mapM fun path => IO.FS.readFile path
  let trace ← options.trace.mapM fun path => IO.FS.readFile path
  match Trace.replay settings options.unlimited trace with
  | .ok replay =>
    if let some path := options.snapshot then
      writeSnapshot replay.gpu path
    IO.print replay.report.render
  | .error error => throw (IO.userError error.message)

end GpuCore.CommandLine

/-- Replay a trace.  Fails with 2 for a malformed command line and with 1 for anything else. -/
def main (arguments : List String) : IO UInt32 := do
  match GpuCore.CommandLine.Options.ofArguments? {} arguments with
  | none =>
    IO.eprintln GpuCore.CommandLine.usage
    return 2
  | some options =>
    try
      GpuCore.CommandLine.replayFiles options
      return 0
    catch error =>
      IO.eprintln error
      return 1
