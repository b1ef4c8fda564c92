import GridAsm.Text.Basic

/-!
# Columns of text

Filling a text with spaces up to the width of its column.  Widths count code points; a text that is
wider than its column is not cut.
-/

namespace GridAsm.Text

/-- A text at the left of a column. -/
def alignLeft (width : Nat) (t : Text) : Text :=
  t ++ List.replicate (width - t.length) (.char ' ')

/-- A text at the right of a column. -/
def alignRight (width : Nat) (t : Text) : Text :=
  List.replicate (width - t.length) (.char ' ') ++ t

/-- Digits filled with zeros at the left, up to a width. -/
def zeroFilled (width : Nat) (digits : List Char) : List Char :=
  List.replicate (width - digits.length) '0' ++ digits

end GridAsm.Text
