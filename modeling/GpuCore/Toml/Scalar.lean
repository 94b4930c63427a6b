import GpuCore.Toml.DateTime
import GpuCore.Toml.Layout
import GpuCore.Toml.Numeral

/-!
# Scalars without quotes

Truth values, numbers, dates and times are written without quotes, as one token.  A token goes
on behind a gap when the text behind the gap could begin a token: a date takes a time of day
with it in this way.

Main definitions:

- `takeToken`: the token at the start of a text.
- `scalarOfToken?`: the value of a token.
- `readScalar?`: the scalar at the start of a text.
-/

namespace GpuCore.Toml

/-! ## Tokens -/

/-- Characters that end a token, gaps apart. -/
def tokenEnds : List Char :=
  ['#', ',', '=', '[', ']', '\x7b', '\x7d', '\n', '\r']

/-- Characters of a token. -/
def isTokenChar (c : Char) : Bool :=
  !(isGap c || tokenEnds.contains c)

/-- Characters that begin a token or, after a point or a gap, go on with it: quoted text cannot
do so. -/
def beginsToken (c : Char) : Bool :=
  isTokenChar c && c ≠ '.' && c ≠ '\x22' && c ≠ '\x27'

/-- The rest of a token, and the text behind it.  Quotes belong to a token only within a run of
characters, and `inRun` says whether one is under way. -/
def takeTokenFrom (inRun : Bool) : List Char → List Char × List Char
  | [] => ([], [])
  | c :: text =>
    let goesOn :=
      if isGap c then (skipGap text).head?.any beginsToken
      else c = '.' || beginsToken c || (inRun && isTokenChar c)
    if goesOn then
      let (token, rest) := takeTokenFrom (isTokenChar c && c ≠ '.') text
      (c :: token, rest)
    else
      ([], c :: text)

/-- The token at the start of a text, and the text behind it. -/
def takeToken (text : List Char) : List Char × List Char :=
  takeTokenFrom false text

/-! ## Values -/

/-- The value of a token without its sign that begins with a digit: the first character behind
its leading digits tells dates and times from numbers. -/
def scalarOfDigits? (sign : Sign) (token : List Char) : Option Value :=
  let rest := token.dropWhile Char.isDigit
  if rest.head? = some '-' ∨ rest.head? = some ':' then
    if sign = .none ∧ isDateTime token then some (.dateTime (String.ofList token)) else none
  else if rest.contains ' ' then
    none
  else if rest.contains '.' ∨ rest.contains 'e' ∨ rest.contains 'E' then
    (decimalFloat? sign token).map .float
  else if rest.isEmpty ∨ rest.head? = some '_' then
    (decimalInteger? sign token).map .integer
  else
    none

/-- The value of a token. -/
def scalarOfToken? (token : List Char) : Option Value :=
  match token with
  | ['t', 'r', 'u', 'e'] => some (.boolean true)
  | ['f', 'a', 'l', 's', 'e'] => some (.boolean false)
  | '0' :: 'x' :: text => (radixInteger? 16 text).map .integer
  | '0' :: 'o' :: text => (radixInteger? 8 text).map .integer
  | '0' :: 'b' :: text => (radixInteger? 2 text).map .integer
  | token =>
    match takeSign token with
    | (sign, ['i', 'n', 'f']) => some (.float (.infinity (sign = .minus)))
    | (_, ['n', 'a', 'n']) => some (.float .nan)
    | (sign, token) => scalarOfDigits? sign token

/-- The scalar at the start of a text, and the text behind it. -/
def readScalar? (text : List Char) : Option (Value × List Char) :=
  let (token, rest) := takeToken text
  (scalarOfToken? token).map fun value => (value, rest)

end GpuCore.Toml
