import GridAsm.Text.Basic
import GridAsm.Text.Ranges

/-!
# Blank characters

The white space that separates the parts of a line, of an operand list and of a table cell: the
ASCII controls from tab to carriage return and from file separator to unit separator, the space,
and the white space of the rest of Unicode.  A zero-width space and a byte-order mark are not
blank.
-/

namespace GridAsm.Text

/-- The ranges of blank characters. -/
def blankRanges : List (Nat × Nat) :=
  [(0x9, 0xD), (0x1C, 0x20), (0x85, 0x85), (0xA0, 0xA0), (0x1680, 0x1680), (0x2000, 0x200A),
   (0x2028, 0x2029), (0x202F, 0x202F), (0x205F, 0x205F), (0x3000, 0x3000)]

/-- Whether a code point is white space. -/
def isBlank (p : CodePoint) : Bool :=
  inRanges p.code blankRanges

/-- The text without the blanks at its start. -/
def trimStart (t : Text) : Text :=
  t.dropWhile isBlank

/-- The text without the blanks at its end. -/
def trimEnd (t : Text) : Text :=
  (t.reverse.dropWhile isBlank).reverse

/-- The text without the blanks at either end. -/
def trim (t : Text) : Text :=
  trimEnd (trimStart t)

/-- Whether a text holds blanks only. -/
def allBlank (t : Text) : Bool :=
  t.all isBlank

end GridAsm.Text
