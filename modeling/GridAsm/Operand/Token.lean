import GridAsm.Diagnostic
import GridAsm.Label
import GridAsm.Literal
import GridAsm.Notice
import GridAsm.Text.Similar
import GridAsm.Text.Split
import GridAsm.Text.Upper

/-!
# Operand tokens

The operands of a line are separated by commas.  An operand is a register `r0` to `r15`, a register
in brackets, a number or a label, or a condition.  Each reader here ignores the blanks around its
token.
-/

namespace GridAsm.Token

open Text

/-- The operands in a text; a blank text has none. -/
def split (text : Text) : List Text :=
  match trim text with
  | [] => []
  | cs => (splitAt ',' cs).map trim

/-! ### Registers -/

/-- The highest register. -/
def highestRegister : Nat := 15

/-- The number of a register: an `r` of either case and one or two digits. -/
def registerNumber? : Text → Option Nat
  | r :: digits =>
    if (r = 'r' ∨ r = 'R') ∧ digits.length ≤ 2 then
      (numeral? 10 digitValue? digits).filter (· ≤ highestRegister)
    else none
  | [] => none

/-- Reads a register. -/
def register (token : Text) : Except LineFault Nat :=
  let name := trim token
  match registerNumber? name with
  | some n => .ok n
  | none => .error (.invalidRegister name)

/-- The text inside the brackets around a token.  It may hold no line feed but at its ends. -/
def insideBrackets? (cs : Text) : Option Text :=
  match cs with
  | .char '[' :: rest =>
    if rest.getLast? = some (.char ']') then
      let inner := trim rest.dropLast
      if inner.contains '\n' then none else some inner
    else none
  | _ => none

/-- Reads a register in brackets, as an operand of `mnemonic`, whose operands are spelled
`expected`. -/
def indirect (mnemonic expected token : Text) : Except LineFault Nat :=
  let text := trim token
  match insideBrackets? text with
  | some inner => register inner
  | none => .error (.badOperands mnemonic (.notIndirect text) (some expected))

/-! ### Numbers and labels -/

/-- The name that a token refers to: without colons at its end, and in capitals. -/
def labelKey (cs : Text) : Text :=
  upper (cs.reverse.dropWhile (· = .char ':')).reverse

/-- Reads a number, or the address of a label. -/
def value (labels : LabelTable) (token : Text) : Except LineFault Int :=
  let text := trim token
  match Literal.parse? text with
  | some n => .ok n
  | none =>
    let name := labelKey text
    match labels.find? name with
    | some address => .ok address
    | none => .error (.unresolvedSymbol text (closeMatches name labels.names))

/-- Reads a displacement from the instruction after `pc`: a number is taken as it is, and a label by
its distance. -/
def displacement (labels : LabelTable) (pc : Int) (token : Text) : Except LineFault Int :=
  match Literal.parse? token with
  | some n => .ok n
  | none => (value labels token).map (· - (pc + 1))

/-! ### Conditions -/

/-- The names of conditions and their codes. -/
def conditionNames : List (Text × Nat) :=
  [("AL", 0), ("A", 0), ("TRUE", 0), ("UN", 0), ("Z", 4), ("EQ", 4), ("C", 5), ("CS", 5), ("V", 6),
   ("OV", 6), ("N", 7), ("MI", 7)]

/-- The code written by a digit below eight. -/
def conditionDigit? (cs : Text) : Option Nat :=
  match cs with
  | [.char c] => if '0' ≤ c ∧ c ≤ '7' then some (c.toNat - '0'.toNat) else none
  | _ => none

/-- The code written by a binary or a hexadecimal number in capitals: its low three bits. -/
def conditionNumber? (cs : Text) : Option Nat :=
  match cs with
  | .char '0' :: .char 'B' :: digits => (numeral? 2 Literal.binaryValue? digits).map (· % 8)
  | .char '0' :: .char 'X' :: digits => (numeral? 16 hexValue? digits).map (· % 8)
  | _ => none

/-- The code of a condition in capitals, if it is one. -/
def conditionCode? (cs : Text) : Option Nat :=
  conditionDigit? cs <|> conditionNumber? cs <|> conditionNames.lookup cs

/-- Reads a condition.  One that is not known counts as `AL`, with a warning. -/
def condition (token : Text) : Logged Nat :=
  let text := trim token
  match conditionCode? (upper text) with
  | some code => return code
  | none => ⟨0, [.unknownCondition text]⟩

end GridAsm.Token
