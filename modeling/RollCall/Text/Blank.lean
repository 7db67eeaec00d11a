import RollCall.Text.CharRange

/-!
# Blanks

White space in the sense of Unicode: the characters whose bidirectional class is a separator or
white space, which includes the four information separators `U+001C` to `U+001F` and leaves out the
zero-width space and the byte order mark.

* `isBlank` — the class.
* `trim` — a text without the blanks at its two ends.
-/

namespace RollCall.Text

/-- The ranges of the white space characters. -/
def blankTable : RangeTable :=
  [(0x09, 0x0D), (0x1C, 0x20), (0x85, 0x85), (0xA0, 0xA0), (0x1680, 0x1680), (0x2000, 0x200A),
   (0x2028, 0x2029), (0x202F, 0x202F), (0x205F, 0x205F), (0x3000, 0x3000)]

/-- White space. -/
def isBlank (c : Char) : Bool := blankTable.contains c

/-- Drops the longest run of characters with the property from each end. -/
def trimBoth (drop : Char → Bool) (cs : List Char) : List Char :=
  ((cs.dropWhile drop).reverse.dropWhile drop).reverse

/-- A text without the white space at its ends. -/
def trim (cs : List Char) : List Char := trimBoth isBlank cs

end RollCall.Text
