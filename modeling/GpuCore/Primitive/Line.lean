import GpuCore.Primitive.Attribute

/-!
# Lines

Opcodes `0x40` to `0x5F` draw single lines and polylines.  A flat packet is a list of vertices;
a shaded one has a color before every vertex but the first.  A polyline goes on until a
terminator word takes the place of a vertex (flat) or of a color (shaded), or until the packet
ends.

Main definitions:

- `isTerminator`: the words that end a polyline.
- `Line` and its points.
- `Line.decode?`: the line held by the words of a packet.
-/

namespace GpuCore

/-- A word that ends a polyline once two points were given. -/
def isTerminator (word : UInt32) : Bool :=
  word &&& 0xF000F000 == 0x50005000

/-- One point of a line. -/
structure LinePoint where
  position : Vertex
  color : Color
deriving DecidableEq, Repr, Inhabited

/-- A line or a polyline of at least two points. -/
structure Line where
  points : List LinePoint
  shaded : Bool
  polyline : Bool
  semiTransparent : Bool
deriving DecidableEq, Repr, Inhabited

namespace Line

/-- Whether a line of `count` points ends before the slot that holds `word`. -/
def endsBefore (polyline : Bool) (count : Nat) (word : UInt32) : Bool :=
  2 ≤ count && (!polyline || isTerminator word)

/-- The points of a flat line from its vertex words, after `count` earlier ones. -/
def flatPoints (polyline : Bool) (color : Color) (count : Nat) : List UInt32 → List LinePoint
  | [] => []
  | vertex :: words =>
    if endsBefore polyline count vertex then
      []
    else
      ⟨.ofWord vertex, color⟩ :: flatPoints polyline color (count + 1) words

/-- The points of a shaded line from its pairs of a color and a vertex, after `count` earlier
ones. -/
def shadedPoints (polyline : Bool) (count : Nat) : List UInt32 → List LinePoint
  | color :: vertex :: words =>
    if endsBefore polyline count color then
      []
    else
      ⟨.ofWord vertex, .ofWord color⟩ :: shadedPoints polyline (count + 1) words
  | _ => []

/-- All points of a packet, given the words behind the command word. -/
def pointsOf (shaded polyline : Bool) (base : Color) (words : List UInt32) : List LinePoint :=
  match shaded, words with
  | false, words => flatPoints polyline base 0 words
  | true, vertex :: words => ⟨.ofWord vertex, base⟩ :: shadedPoints polyline 1 words
  | true, [] => []

/-- The line of a packet; `none` if it has fewer than two points. -/
def decode? : List UInt32 → Option Line
  | [] => none
  | command :: words =>
    let shaded := Word.flag command 28
    let polyline := Word.flag command 27
    let points := pointsOf shaded polyline (Color.ofWord command) words
    if points.length < 2 then
      none
    else
      some { points, shaded, polyline, semiTransparent := Word.flag command 25 }

end Line

end GpuCore
