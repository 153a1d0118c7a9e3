import BarTemplate.Unicode.Table

/-!
# White space

The code points that are dropped at the ends of a text when it is trimmed: the separators of category Z, the line and
paragraph breaks among the controls, and the four information separators U+001C to U+001F.
-/

namespace BarTemplate.Unicode

/-- The ranges of white space. -/
def blankRanges : Table :=
  [(0x9, 0xd), (0x1c, 0x20), (0x85, 0x85), (0xa0, 0xa0), (0x1680, 0x1680), (0x2000, 0x200a), (0x2028, 0x2029),
   (0x202f, 0x202f), (0x205f, 0x205f), (0x3000, 0x3000)]

/-- A white space code point. -/
def isBlank (c : Char) : Bool :=
  blankRanges.covers c.toNat

end BarTemplate.Unicode
