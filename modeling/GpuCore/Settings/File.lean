import GpuCore.Number.Shortest
import GpuCore.Settings.FixList
import GpuCore.Toml.Document

/-!
# Settings files

Settings are kept as a TOML document.  Keys that a document does not have keep their defaults,
and keys without a meaning are ignored.

Main definitions:

- `Settings.ofText?`: the settings of a document.
- `Settings.render`: the document of settings.
-/

namespace GpuCore.Settings

open GpuCore.Toml

/-! ## Reading -/

/-- A truth value. -/
def readBool? : Value → Option Bool
  | .boolean value => some value
  | _ => none

/-- A set of fixes. -/
def readFixes? : Value → Option Fixes
  | .string list => Fixes.ofText? list
  | _ => none

/-- A rate: a floating-point number, which is rounded twice, or an integer of 64 bits. -/
def readRate? : Value → Option Float32
  | .float literal => literal.toFloat?.map Float.toFloat32
  | .integer literal => literal.toInt?.bind fun value =>
    if (Int64.ofInt value).toInt = value then some (Int64.ofInt value).toFloat32
    else if 0 ≤ value ∧ value.toNat < UInt64.size then some value.toNat.toUInt64.toFloat32
    else none
  | _ => none

/-- A skipping strategy: its name, or a table that has the name as its only key and nothing
below it. -/
def readSkipMode? : Value → Option SkipMode
  | .string name => SkipMode.ofName? name
  | .table _ [(name, .table _ [])] => SkipMode.ofName? name
  | .table _ [(name, .array _ [])] => SkipMode.ofName? name
  | _ => none

/-- The keys of the pacing options, in the order in which an array lists their values. -/
def pacingKeys : List String :=
  ["frame_limit", "framerate_limit", "frame_skip", "chip_accurate_rates"]

/-- Pacing options with the value of one key. -/
def setPacing? (pacing : PacingSettings) (entry : String × Value) :
    Option PacingSettings :=
  match entry with
  | ("frame_limit", value) =>
    (readBool? value).map fun limit => { pacing with frameLimit := limit }
  | ("framerate_limit", value) =>
    (readRate? value).map fun rate => { pacing with customRate := rate }
  | ("frame_skip", value) =>
    (readSkipMode? value).map fun mode => { pacing with skipMode := mode }
  | ("chip_accurate_rates", value) =>
    (readBool? value).map fun accurate => { pacing with chipAccurate := accurate }
  | (_, value) => if value.isRepresentable then some pacing else none

/-- Pacing options: a table, or an array of the values.  What an array has behind them is not
read.  A date or time counts as a table without any of the keys. -/
def readPacing? : Value → Option PacingSettings
  | .table _ entries => entries.foldlM setPacing? {}
  | .array _ elements => (pacingKeys.zip elements).foldlM setPacing? {}
  | .dateTime _ => some {}
  | _ => none

/-- Settings with the value of one key. -/
def set? (settings : Settings) (entry : String × Value) : Option Settings :=
  match entry with
  | ("vram_doubled", value) =>
    (readBool? value).map fun isDoubled => { settings with doubledMemory := isDoubled }
  | ("fixes", value) => (readFixes? value).map fun fixes => { settings with fixes := fixes }
  | ("pacing", value) => (readPacing? value).map fun pacing => { settings with pacing := pacing }
  | (_, value) => if value.isRepresentable then some settings else none

/-- The settings of a document. -/
def ofText? (text : String) : Option Settings := do
  (← Table.ofText? text).foldlM set? {}

/-! ## Writing -/

/-- A truth value. -/
def boolText (value : Bool) : String :=
  if value then "true" else "false"

/-- An entry on a line of its own. -/
def entryLine (key value : String) : String :=
  key ++ " = " ++ value ++ "\n"

/-- A text in quotation marks.  Names and lists of fixes need no escapes. -/
def quotedText (text : String) : String :=
  "\"" ++ text ++ "\""

/-- The document of settings: every key once, in a fixed order. -/
def render (settings : Settings) : String :=
  let pacing := settings.pacing
  entryLine "vram_doubled" (boolText settings.doubledMemory) ++
    entryLine "fixes" (quotedText settings.fixes.render) ++
    "\n[pacing]\n" ++
    entryLine "frame_limit" (boolText pacing.frameLimit) ++
    entryLine "framerate_limit" (String.ofList (Number.textOfFloat32 pacing.customRate)) ++
    entryLine "frame_skip" (quotedText pacing.skipMode.name) ++
    entryLine "chip_accurate_rates" (boolText pacing.chipAccurate)

end GpuCore.Settings
