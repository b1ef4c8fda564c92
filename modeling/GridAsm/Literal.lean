import GridAsm.Text.Blank
import GridAsm.Text.Digit

/-!
# Numeric literals

A literal is an optional sign followed by decimal digits of any script, by `0x` and hexadecimal
digits, or by `0b` and binary digits among which underscores may stand.  Blanks around it are
ignored, and letters may be of either case.
-/

namespace GridAsm.Literal

open Text

/-- The sign at the start of a literal as a factor, and what follows it. -/
def splitSign : Text → Int × Text
  | .char '+' :: rest => (1, rest)
  | .char '-' :: rest => (-1, rest)
  | cs => (1, cs)

/-- The value of a binary digit. -/
def binaryValue? (c : CodePoint) : Option Nat :=
  if c = '0' then some 0 else if c = '1' then some 1 else none

/-- The value of a literal without its sign. -/
def magnitude? (cs : Text) : Option Nat :=
  match numeral? 10 digitValue? cs with
  | some n => if cs.length ≤ digitLimit then some n else none
  | none => match cs with
    | .char '0' :: x :: digits =>
      if x = 'x' ∨ x = 'X' then numeral? 16 hexValue? digits
      else if x = 'b' ∨ x = 'B' then numeral? 2 binaryValue? (digits.filter (· ≠ .char '_'))
      else none
    | _ => none

/-- The value of a literal, if the text is one. -/
def parse? (token : Text) : Option Int :=
  let (sign, digits) := splitSign (trim token)
  (magnitude? digits).map (sign * ·)

end GridAsm.Literal
