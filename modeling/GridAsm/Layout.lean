import GridAsm.Field
import GridAsm.Json.Value
import GridAsm.Notice
import GridAsm.Shape
import GridAsm.Text.Lower
import GridAsm.Text.Upper

/-!
# Layouts

The sixteen format cells of a row, read from the highest bit down, give the fields of a word:

* a blank cell, `x` and text of no known kind are an ignored bit;
* `0` and `1` are a fixed bit;
* `rd[hi:lo]` (or `rs`, `rt`) is a slice of a register and takes as many cells as it has bits, or as
  many as are left, with a warning;
* `rd[n]` is one bit of a register;
* `Y`, `P` and `O` are an immediate value, and a run of equal cells is one field;
* `COND` and `BCOND` are the condition, and a run of either is one field.

A cell's column is fifteen less its bit, since every field takes as many cells as bits.
-/

namespace GridAsm

open Text

namespace Layout

/-- The number of bits of a word, and of cells in a row. -/
def bitsPerWord : Nat := 16

/-! ### Cells -/

/-- What a cell says about the bits from its own on. -/
inductive Symbol where
  /-- An ignored bit. -/
  | ignored
  /-- A fixed bit. -/
  | fixed (value : Nat)
  /-- A slice of a register; the numbers are still digits. -/
  | slice (register hi lo : Text)
  /-- One bit of a register; the number is still digits. -/
  | registerBit (register bit : Text)
  /-- An immediate value. -/
  | immediate (name : Text)
  /-- The condition. -/
  | condition
  deriving DecidableEq, Repr

/-- The names of registers in cells. -/
def registerNames : List String :=
  ["rd", "rs", "rt"]

/-- The digits at the start of a text with blanks around them, and what follows them, if there are
any. -/
def digitsBetweenBlanks? (cs : Text) : Option (Text × Text) :=
  let cs := trimStart cs
  let digits := cs.takeWhile isDigit
  if digits.isEmpty then none else some (digits, trimStart (cs.dropWhile isDigit))

/-- The brackets after a register's name: a slice or a bit. -/
def bracketed? (register cs : Text) : Option Symbol :=
  match trimStart cs with
  | .char '[' :: cs => match digitsBetweenBlanks? cs with
    | some (bit, [.char ']']) => some (.registerBit register bit)
    | some (hi, .char ':' :: cs) => match digitsBetweenBlanks? cs with
      | some (lo, [.char ']']) => some (.slice register hi lo)
      | _ => none
    | _ => none
  | _ => none

/-- A register's name with brackets after it.  The name is kept in small letters. -/
def registerSymbol? (cs : Text) : Option Symbol :=
  let name := cs.take 2
  if registerNames.any (spells · name) then bracketed? (lower name) (cs.drop 2)
  else none

/-- Whether a cell is the condition. -/
def isCondition (cell : Text) : Bool :=
  spells "cond" cell || spells "bcond" cell

/-- Whether a cell is the name of an immediate value. -/
def isImmediate (cell : Text) : Bool :=
  ["Y", "P", "O"].any (spells · cell)

/-- What a cell says. -/
def symbol (cell : Text) : Symbol :=
  if cell = "" ∨ lower cell = "x" then .ignored
  else if cell = "0" then .fixed 0
  else if cell = "1" then .fixed 1
  else match registerSymbol? cell with
    | some s => s
    | none =>
      if isImmediate cell then .immediate (upper cell)
      else if isCondition cell then .condition
      else .ignored

/-! ### Fields -/

/-- The number that digits stand for. -/
def number (digits : Text) : Except NumberFault Nat :=
  if digitLimit < digits.length then .error (.tooManyDigits digits.length)
  else .ok ((numeral? 10 digitValue? digits).getD 0)

/-- The number of bits between two positions, both of them included. -/
def span (hi lo : Nat) : Nat :=
  max hi lo - min hi lo + 1

/-- The width of a slice that starts at `bit`: what it asks for, or what is left. -/
def sliceWidth (cell : Text) (bit hi lo : Nat) : Attempt NumberFault Nat := do
  let width := span hi lo
  if bit + 1 < width then
    if writingLimit ≤ width then throw .tooLongToWrite
    Attempt.note (.sliceClamped cell bit width)
    return bit + 1
  else return width

/-- The number of cells at the start of `next` that continue a run. -/
def runLength (continues : Text → Bool) (next : List Text) : Nat :=
  (next.takeWhile continues).length

/-- The field that starts with a cell at `bit`, where `next` holds the cells after it. -/
def fieldAt (bit : Nat) (cell : Text) (next : List Text) : Attempt NumberFault Field :=
  let field (width : Nat) (content : Content) : Field := ⟨bit + 1 - width, width, content⟩
  match symbol cell with
  | .ignored => return field 1 .ignored
  | .fixed value => return field 1 (.fixed value)
  | .slice register hi lo => do
    let hi ← liftExcept (number hi)
    let lo ← liftExcept (number lo)
    return field (← sliceWidth cell bit hi lo) (.slice register hi lo)
  | .registerBit register n => do
    return field 1 (.registerBit register (← liftExcept (number n)))
  | .immediate name =>
    return field (1 + runLength (fun c => upper c = name) next) (.immediate name)
  | .condition => return field (1 + runLength isCondition next) .condition

/-- The fields of the cells from one on; `skip` cells belong to the field before them. -/
def fieldsFrom (skip : Nat) : List Text → Attempt NumberFault (List Field)
  | [] => return []
  | cell :: next =>
    match skip with
    | skip + 1 => fieldsFrom skip next
    | 0 => do
      let f ← fieldAt next.length cell next
      return f :: (← fieldsFrom (f.width - 1) next)

/-- The texts of the sixteen cells of a row; cells that are missing are blank. -/
def cellTexts (cells : List Json.Value) : List Text :=
  let texts := (cells.take bitsPerWord).map Json.Value.cellText
  texts ++ List.replicate (bitsPerWord - texts.length) []

/-- The fields of a row's format cells. -/
def ofCells (cells : List Json.Value) : Attempt NumberFault (List Field) :=
  fieldsFrom 0 (cellTexts cells)

end Layout

end GridAsm
