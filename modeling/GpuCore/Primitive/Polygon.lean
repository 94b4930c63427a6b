import GpuCore.Primitive.Attribute

/-!
# Polygons

Opcodes `0x20` to `0x3F` draw triangles and quads.  The bits of the opcode select the layout of
the packet: for every corner a color (in shaded polygons, except for the first corner, whose
color is in the command word), a vertex, and in textured polygons a texture word.  The upper
halves of the first two texture words select the color table and the texture page.

Main definitions:

- `Polygon` and its `Corner`s.
- `Polygon.decode?`: the polygon held by the words of a packet.
-/

namespace GpuCore

/-! ## Corners -/

/-- One corner of a polygon. -/
structure Corner where
  color : Color := {}
  position : Vertex := {}
  texture : TexCoord := {}
  /-- Upper half of the texture word, which selects the color table or the texture page. -/
  selector : UInt16 := 0
deriving DecidableEq, Repr, Inhabited

/-- A triangle or a quad. -/
structure Polygon where
  corners : List Corner
  shaded : Bool
  textured : Bool
  semiTransparent : Bool
  /-- The texture is drawn without modulation by the color. -/
  rawTexture : Bool
deriving DecidableEq, Repr, Inhabited

namespace Polygon

/-- Color table of the texture, from the first corner. -/
def colorTable (polygon : Polygon) : UInt16 :=
  (polygon.corners[0]?.map Corner.selector).getD 0

/-- Texture page, from the second corner. -/
def texturePage (polygon : Polygon) : UInt16 :=
  (polygon.corners[1]?.map Corner.selector).getD 0

/-! ## Decoding -/

/-- A corner of known color: its vertex word and, when `textured`, its texture word. -/
def readCorner? (textured : Bool) (color : Color) :
    List UInt32 → Option (Corner × List UInt32)
  | vertex :: texture :: rest =>
    if textured then
      some ({ color, position := .ofWord vertex, texture := .ofWord texture
              selector := Word.high texture }, rest)
    else
      some ({ color, position := .ofWord vertex }, texture :: rest)
  | [vertex] => if textured then none else some ({ color, position := .ofWord vertex }, [])
  | [] => none

/-- `count` further corners, each preceded by its color in shaded polygons. -/
def readCorners? (shaded textured : Bool) (base : Color) :
    Nat → List UInt32 → Option (List Corner)
  | 0, _ => some []
  | count + 1, words => do
    let (color, words) ← match shaded, words with
      | false, words => some (base, words)
      | true, color :: words => some (Color.ofWord color, words)
      | true, [] => none
    let (corner, words) ← readCorner? textured color words
    let corners ← readCorners? shaded textured base count words
    return corner :: corners

/-- The polygon of a packet; `none` if words are missing. -/
def decode? : List UInt32 → Option Polygon
  | [] => none
  | command :: words => do
    let shaded := Word.flag command 28
    let textured := Word.flag command 26
    let base := Color.ofWord command
    let (corner, words) ← readCorner? textured base words
    let corners ← readCorners? shaded textured base (if Word.flag command 27 then 3 else 2) words
    return {
      corners := corner :: corners
      shaded
      textured
      semiTransparent := Word.flag command 25
      rawTexture := Word.flag command 24 }

end Polygon

end GpuCore
