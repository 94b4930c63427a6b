import GpuCore.Primitive.Attribute

/-!
# Sprites

Opcodes `0x60` to `0x7F` draw rectangles that are parallel to the axes.  The packet holds the
upper left vertex, in textured sprites a texture word, and in sprites of variable size the size.

Main definitions:

- `Sprite` and `Sprite.decode?`.
-/

namespace GpuCore

/-- A rectangle parallel to the axes. -/
structure Sprite where
  position : Vertex
  width : Nat
  height : Nat
  color : Color
  texture : TexCoord := {}
  /-- Color table of the texture. -/
  colorTable : UInt16 := 0
  textured : Bool
  semiTransparent : Bool
  /-- The texture is drawn without modulation by the color. -/
  rawTexture : Bool
deriving DecidableEq, Repr, Inhabited

namespace Sprite

/-- The side length that an opcode prescribes; `none` for sprites of variable size. -/
def side? (command : UInt32) : Option Nat :=
  match Word.field command 27 2 with
  | 0 => none
  | 1 => some 1
  | 2 => some 8
  | _ => some 16

/-- The texture word, if the sprite has one, and the words behind it. -/
def readTexture? (textured : Bool) : List UInt32 → Option (UInt32 × List UInt32)
  | texture :: words => if textured then some (texture, words) else some (0, texture :: words)
  | [] => if textured then none else some (0, [])

/-- Width and height: prescribed by the opcode or held by the next word. -/
def readSize? (command : UInt32) (words : List UInt32) : Option (Nat × Nat) :=
  match side? command, words with
  | some side, _ => some (side, side)
  | none, size :: _ => some (Word.field size 0 10, Word.field size 16 9)
  | none, [] => none

/-- The sprite of a packet; `none` if words are missing. -/
def decode? : List UInt32 → Option Sprite
  | command :: vertex :: words => do
    let textured := Word.flag command 26
    let (texture, words) ← readTexture? textured words
    let (width, height) ← readSize? command words
    return {
      position := .ofWord vertex
      width
      height
      color := .ofWord command
      texture := .ofWord texture
      colorTable := Word.high texture
      textured
      semiTransparent := Word.flag command 25
      rawTexture := Word.flag command 24 }
  | _ => none

end Sprite

end GpuCore
