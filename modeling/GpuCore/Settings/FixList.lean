import GpuCore.Settings
import GpuCore.Text.Blank
import GpuCore.Text.Radix

/-!
# Lists of fixes

A set of fixes is written as a list of names between bars.  Bits without a name are written
together as one hexadecimal number.

Main definitions:

- `Fixes.render`: the list of a set.
- `Fixes.ofText?`: the set of a list.
-/

namespace GpuCore

open GpuCore.Text

/-! ## Writing -/

/-- The bits without a name. -/
def Fixes.unnamed (fixes : Fixes) : Fixes :=
  Fixes.named.foldl (fun rest entry => rest.without entry.2) fixes

/-- The list of a set: the names in the order of their bits, then the bits without a name. -/
def Fixes.render (fixes : Fixes) : String :=
  let names := (Fixes.named.filter fun entry => fixes.contains entry.2).map Prod.fst
  let rest := fixes.unnamed.bits
  let numbers := if rest = 0 then [] else ["0x" ++ String.ofList (hexOfWord rest)]
  String.intercalate " | " (names ++ numbers)

/-! ## Reading -/

/-- The fixes of one part of a list: a name, or a hexadecimal number behind a mark. -/
def Fixes.ofPart? (part : List Char) : Option Fixes :=
  match part with
  | '0' :: 'x' :: digits => (word? digits).map Fixes.mk
  | _ => Fixes.named.lookup (String.ofList part)

/-- The set of a list, whose parts may stand between blanks.  A blank list is the empty set. -/
def Fixes.ofText? (list : String) : Option Fixes :=
  let list := trim list.toList
  if list.isEmpty then
    some {}
  else
    (split '|' list).foldlM
      (fun fixes part => (Fixes.ofPart? (trim part)).map fixes.union) {}

end GpuCore
