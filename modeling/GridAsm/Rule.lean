import GridAsm.Layout
import GridAsm.Text.Column

/-!
# Rules

A rule gives the words of one mnemonic: the operands it takes and the fields of its word.  It is
read from a row of a grid, whose first cell is the mnemonic, the second the operand text and the
rest the format.
-/

namespace GridAsm

open Text

/-- The layout of the words of one mnemonic. -/
structure Rule where
  /-- The mnemonic, in capitals. -/
  mnemonic : Text
  /-- The operand text as it stands in the table. -/
  operands : Text
  /-- The shape of the operands. -/
  shape : Shape
  /-- The fields of the word, the highest first. -/
  fields : List Field
  deriving DecidableEq, Repr

namespace Rule

/-- The number of bits in all fields. -/
def width (r : Rule) : Nat :=
  r.fields.foldr (fun f n => f.width + n) 0

/-- What a field adds to the opcode: a fixed bit among the bits 11 to 14. -/
def opcodeBit (f : Field) : Nat :=
  match f.content with
  | .fixed value =>
    if 11 ≤ f.msb ∧ f.msb ≤ 14 then value.toNat <<< (f.msb - 11).toNat else 0
  | _ => 0

/-- The opcode: the fixed bits among the bits 11 to 14 of the word. -/
def opcode (r : Rule) : Nat :=
  r.fields.foldl (fun n f => n ||| opcodeBit f) 0

/-- The text of the fields. -/
def layoutText (r : Rule) : Text :=
  Text.join " " (r.fields.map Field.text)

/-- The line of the rule in a table listing. -/
def text (r : Rule) : Text :=
  alignLeft 6 r.mnemonic ++ " " ++ alignLeft 12 r.operands ++ " [" ++ r.shape.name ++ "]  " ++
    r.layoutText

/-- The rule of a row with a mnemonic. -/
def ofNamedRow (mnemonic : Text) (rest : List Json.Value) : Attempt NumberFault Rule := do
  let operands := (rest.head?.map Json.Value.cellText).getD []
  let shape := Shape.classify operands
  if shape = .unsupported then Attempt.note (.unknownShape mnemonic operands)
  let fields ← Layout.ofCells (rest.drop 1)
  return ⟨upper mnemonic, operands, shape, fields⟩

/-- The rule of a row; a row without a mnemonic has none. -/
def ofRow? (row : List Json.Value) : Attempt NumberFault (Option Rule) :=
  match row with
  | [] => return none
  | first :: rest =>
    let mnemonic := first.cellText
    if mnemonic.isEmpty then return none else some <$> ofNamedRow mnemonic rest

end Rule

end GridAsm
