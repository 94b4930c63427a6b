/-!
# Settings

What a user can configure: the size of video memory, fixes for particular programs, and how
frames are paced.

Main definitions:

- `Fixes`: a set of fixes, with room for bits that are not defined yet.
- `SkipMode`: the frame skipping strategies.
- `Settings` and its `PacingSettings`.
-/

namespace GpuCore

/-! ## Fixes -/

/-- A set of fixes, one to a bit.  Bits without a meaning are kept. -/
structure Fixes where
  bits : UInt32 := 0
deriving DecidableEq, Repr, Inhabited

namespace Fixes

/-- Pretend to be busy for a few status reads after a drawing command. -/
def fakeBusy : Fixes := ⟨1⟩

/-- Flip the field bit of the status register at every third status read. -/
def oddEvenToggle : Fixes := ⟨2⟩

/-- Let new display positions replace the previous generation of geometry. -/
def swapFrontBack : Fixes := ⟨4⟩

/-- The defined fixes with their names. -/
def named : List (String × Fixes) :=
  [("FAKE_BUSY", fakeBusy), ("ODD_EVEN_TOGGLE", oddEvenToggle),
   ("SWAP_FRONT_BACK", swapFrontBack)]

/-- Whether every fix of `other` is in the set. -/
def contains (fixes other : Fixes) : Bool :=
  fixes.bits &&& other.bits == other.bits

/-- The fixes of either set. -/
def union (fixes other : Fixes) : Fixes :=
  ⟨fixes.bits ||| other.bits⟩

/-- The fixes that are not in `other`. -/
def without (fixes other : Fixes) : Fixes :=
  ⟨fixes.bits &&& ~~~other.bits⟩

end Fixes

/-! ## Pacing -/

/-- How many periods may pass without rendering when the program runs late. -/
inductive SkipMode where
  /-- Never skip. -/
  | none
  /-- Skip as many periods as were lost. -/
  | standard
  /-- Skip every other period, or two of four fields. -/
  | alternate
deriving DecidableEq, Repr, Inhabited

/-- The name of a strategy. -/
def SkipMode.name : SkipMode → String
  | none => "none"
  | standard => "standard"
  | alternate => "alternate"

/-- The strategy of a name. -/
def SkipMode.ofName? : String → Option SkipMode
  | "none" => some .none
  | "standard" => some .standard
  | "alternate" => some .alternate
  | _ => Option.none

/-- How frames are paced. -/
structure PacingSettings where
  /-- Wait for the end of the period. -/
  frameLimit : Bool := true
  /-- Frames per second; values up to one hundredth select the rate of the region. -/
  customRate : Float32 := 0
  skipMode : SkipMode := .none
  /-- Use the exact rates of the chip and not the rounded ones. -/
  chipAccurate : Bool := true
deriving Inhabited

/-! ## All settings -/

/-- The complete settings. -/
structure Settings where
  /-- Video memory has 1024 lines. -/
  doubledMemory : Bool := false
  fixes : Fixes := {}
  pacing : PacingSettings := {}
deriving Inhabited

end GpuCore
