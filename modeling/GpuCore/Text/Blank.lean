/-!
# Blanks

The characters that count as white space: those with the Unicode property `White_Space`.  They
separate fields and are trimmed from the ends of texts.

Main definitions:

- `isBlank`: white space.
- `trimStart`, `trim` and `fields` on lists of characters.
-/

namespace GpuCore.Text

/-- Code points of the Unicode property `White_Space`, as first and last of each range. -/
def blankRanges : List (Nat × Nat) :=
  [(0x09, 0x0D), (0x20, 0x20), (0x85, 0x85), (0xA0, 0xA0), (0x1680, 0x1680), (0x2000, 0x200A),
   (0x2028, 0x2029), (0x202F, 0x202F), (0x205F, 0x205F), (0x3000, 0x3000)]

/-- White space. -/
def isBlank (c : Char) : Bool :=
  blankRanges.any fun (first, last) => first ≤ c.toNat && c.toNat ≤ last

/-- The text from its first character that is not blank. -/
def trimStart (text : List Char) : List Char :=
  text.dropWhile isBlank

/-- The text without blanks at its ends. -/
def trim (text : List Char) : List Char :=
  (trimStart (trimStart text).reverse).reverse

/-- The fields of a text, which blanks separate, after the characters `field` (in reverse) of
the first one. -/
def fieldsFrom (field : List Char) : List Char → List (List Char)
  | [] => if field.isEmpty then [] else [field.reverse]
  | c :: text =>
    if isBlank c then
      if field.isEmpty then fieldsFrom [] text else field.reverse :: fieldsFrom [] text
    else
      fieldsFrom (c :: field) text

/-- The fields of a text, which blanks separate.  No field is empty. -/
def fields (text : List Char) : List (List Char) :=
  fieldsFrom [] text

/-- The parts of a text between the occurrences of a separator, after the characters `part` (in
reverse) of the first one. -/
def splitFrom (separator : Char) (part : List Char) : List Char → List (List Char)
  | [] => [part.reverse]
  | c :: text =>
    if c = separator then
      part.reverse :: splitFrom separator [] text
    else
      splitFrom separator (c :: part) text

/-- The parts of a text between the occurrences of a separator. -/
def split (separator : Char) (text : List Char) : List (List Char) :=
  splitFrom separator [] text

end GpuCore.Text
