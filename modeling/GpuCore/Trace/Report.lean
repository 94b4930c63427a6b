import GpuCore.Gpu.Control
import GpuCore.Text.Radix

/-!
# Reports

What a replay has to say about the final state, as a JSON text.

Main definitions:

- `Json` and `Json.pretty`: the values that a report needs, laid out over several lines.
- `Report` and `Report.render`.
- `Gpu.report`: the report on a state.
-/

namespace GpuCore.Trace

/-! ## Layout -/

/-- The values that a report needs.  Objects keep the order of their members. -/
inductive Json where
  | null
  | number (value : Int)
  | boolean (value : Bool)
  /-- A text without characters that need an escape. -/
  | text (value : String)
  | object (members : List (String × Json))
deriving Inhabited

/-- A line break and the indentation of a nesting depth. -/
def lineBreak (depth : Nat) : String :=
  "\n" ++ String.ofList (List.replicate (2 * depth) ' ')

/-- A text in quotation marks. -/
def quoted (text : String) : String :=
  "\"" ++ text ++ "\""

mutual

/-- The text of a value at a nesting depth, every member on a line of its own. -/
def Json.pretty (depth : Nat) : Json → String
  | .null => "null"
  | .number value => toString value
  | .boolean value => if value then "true" else "false"
  | .text value => quoted value
  | .object members => "\x7b" ++ prettyMembers (depth + 1) members ++ lineBreak depth ++ "\x7d"

/-- The members of an object at their nesting depth. -/
def prettyMembers (depth : Nat) : List (String × Json) → String
  | [] => ""
  | [(key, value)] => lineBreak depth ++ quoted key ++ ": " ++ value.pretty depth
  | (key, value) :: members =>
    lineBreak depth ++ quoted key ++ ": " ++ value.pretty depth ++ "," ++
      prettyMembers depth members

end

/-! ## Reports -/

/-- What a replay reports. -/
structure Report where
  commands : Nat
  /-- The answer to a status read. -/
  status : UInt32
  frames : Nat
  primitives : Nat
  uploads : Nat
  lastFrame : Option Frame
deriving DecidableEq, Repr, Inhabited

/-- A point as an object. -/
def jsonOfPoint (point : Point) : Json :=
  .object [("x", .number point.x), ("y", .number point.y)]

/-- The name of a region. -/
def regionName : Region → String
  | .ntsc => "Ntsc"
  | .pal => "Pal"

/-- A frame as an object. -/
def jsonOfFrame (frame : Frame) : Json :=
  .object
    [("position", jsonOfPoint frame.position),
     ("size", jsonOfPoint frame.size),
     ("rgb24", .boolean frame.rgb24),
     ("interlaced", .boolean frame.interlaced),
     ("odd_field", .boolean frame.oddField),
     ("region", .text (regionName frame.region))]

/-- A report as an object. -/
def Report.toJson (report : Report) : Json :=
  .object
    [("commands", .number report.commands),
     ("status", .text ("0x" ++ String.ofList (Text.hexPadded true 8 report.status.toNat))),
     ("frames", .number report.frames),
     ("primitives", .number report.primitives),
     ("uploads", .number report.uploads),
     ("last_frame", (report.lastFrame.map jsonOfFrame).getD .null)]

/-- The text of a report. -/
def Report.render (report : Report) : String :=
  report.toJson.pretty 0 ++ "\n"

end GpuCore.Trace

namespace GpuCore.Gpu

/-- The report on a state that so many commands led to.  It reads the status register. -/
def report (gpu : Gpu) (commands : Nat) : Trace.Report where
  commands := commands
  status := gpu.readStatus.1
  frames := gpu.events.countP Event.isFrame
  primitives := gpu.events.countP Event.isPrimitive
  uploads := gpu.events.countP Event.isUpload
  lastFrame :=
    gpu.events.toList.reverse.findSome? fun
      | .frame frame => some frame
      | _ => none

end GpuCore.Gpu
