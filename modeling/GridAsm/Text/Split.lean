import GridAsm.Text.Blank

/-!
# Splitting text

The cuts that lines and operand lists are made with: at every occurrence of one character, at line
ends, and at the first blank.
-/

namespace GridAsm.Text

/-- The pieces of a text between the occurrences of `sep`; there is always at least one piece. -/
def splitAt (sep : Char) : Text → List Text
  | [] => [[]]
  | p :: rest =>
    if p = sep then [] :: splitAt sep rest
    else match splitAt sep rest with
      | [] => [[p]]
      | piece :: pieces => (p :: piece) :: pieces

/-- A line, last code point first, without the carriage return at its end. -/
def dropReturn : Text → Text
  | .char '\r' :: line => line
  | line => line

/-- The lines of a text that continues `line`, whose code points stand last first. -/
def linesFrom (line : Text) : Text → List Text
  | [] => [line.reverse]
  | p :: rest =>
    if p = '\n' then (dropReturn line).reverse :: linesFrom [] rest
    else linesFrom (p :: line) rest

/-- The lines of a text: a line ends at a line feed, and a carriage return right before it belongs
to the line end.  A text that ends with a line feed has an empty last line. -/
def lines (t : Text) : List Text :=
  linesFrom [] t

/-- The text up to the first occurrence of `sep`, or all of it. -/
def before (sep : Char) (t : Text) : Text :=
  t.takeWhile (· ≠ sep)

/-- The first word of a text that starts with no blank, and what follows the blanks after it. -/
def firstWord (t : Text) : Text × Text :=
  (t.takeWhile (!isBlank ·), trimStart (t.dropWhile (!isBlank ·)))

end GridAsm.Text
