import GridAsm.Bits
import GridAsm.Text.Basic

/-!
# Fields of an instruction word

A word is cut into fields: ranges of bits with something to fill them.  A field lies at `lsb` and
has `width` bits.
-/

namespace GridAsm

open Text

/-- What fills the bits of a field. -/
inductive Content where
  /-- A fixed value. -/
  | fixed (value : Int)
  /-- Zeros. -/
  | ignored
  /-- The bits of a register from the lower of `hi` and `lo` on. -/
  | slice (register : Text) (hi lo : Int)
  /-- One bit of a register. -/
  | registerBit (register : Text) (bit : Int)
  /-- An immediate value, by its name. -/
  | immediate (name : Text)
  /-- The condition. -/
  | condition
  /-- Nothing that is known; the bits stay as they are. -/
  | unknown
  deriving DecidableEq, Repr

namespace Content

/-- The lowest register bit of a slice. -/
def sliceShift (hi lo : Int) : Int :=
  min hi lo

/-- A symbol that stands for `width` bits: a count follows if there is more than one. -/
def repeated (symbol : Text) (width : Int) : Text :=
  if 1 < width then symbol ++ "*" ++ decimal width else symbol

/-- The text of a field of the given width. -/
def text (c : Content) (width : Int) : Text :=
  match c with
  | .fixed value => decimal value
  | .ignored => "x"
  | .slice register hi lo => register ++ "[" ++ decimal hi ++ ":" ++ decimal lo ++ "]"
  | .registerBit register bit => register ++ "[" ++ decimal bit ++ "]"
  | .immediate name => repeated name width
  | .condition => repeated "COND" width
  | .unknown => "?"

/-- The numbers that the text of a field of the given width writes. -/
def writtenNumbers (c : Content) (width : Int) : List Int :=
  match c with
  | .fixed value => [value]
  | .slice _ hi lo => [hi, lo]
  | .registerBit _ bit => [bit]
  | .immediate _ | .condition => if 1 < width then [width] else []
  | .ignored | .unknown => []

/-- The text of a field, refused if it writes a number of more than `digitLimit` digits. -/
def checkedText (c : Content) (width : Int) : Except NumberFault Text :=
  if (c.writtenNumbers width).any fun n => writingLimit ≤ n.natAbs then .error .tooLongToWrite
  else .ok (c.text width)

end Content

/-- A range of bits and what fills it. -/
structure Field where
  /-- The lowest bit. -/
  lsb : Nat
  /-- The number of bits. -/
  width : Nat
  /-- What fills the bits. -/
  content : Content
  deriving DecidableEq, Repr

namespace Field

/-- The highest bit; one below `lsb` if the field is empty. -/
def msb (f : Field) : Int :=
  f.lsb + f.width - 1

/-- The text of the field. -/
def text (f : Field) : Text :=
  f.content.text f.width

/-- Whether the field holds bit `i`. -/
def covers (f : Field) (i : Nat) : Prop :=
  f.lsb ≤ i ∧ i < f.lsb + f.width

instance (f : Field) (i : Nat) : Decidable (f.covers i) :=
  inferInstanceAs (Decidable (_ ∧ _))

end Field

end GridAsm
