import GridAsm.Text.Blank
import GridAsm.Text.WordChar

/-!
# Operand shapes

A rule says in its operand text what operands its instructions take.  `Shape.classify` finds the
shape: five of them are spelled out, an absolute jump is known by the word `P`, and a conditional
branch by the words `cond` (or `bcond`) and `O`.  Blanks next to a comma or a bracket and the case
of letters do not matter.

A shape is a list of `Slot`s, one for each operand, which say where the operand's value goes.
-/

namespace GridAsm

open Text

/-- The registers that a rule may name. -/
inductive RegisterRole where
  | rd
  | rs
  | rt
  deriving DecidableEq, Repr

/-- What an operand is. -/
inductive Slot where
  /-- A register. -/
  | register (role : RegisterRole)
  /-- A register in brackets. -/
  | indirect (role : RegisterRole)
  /-- A number or a label, for `Y`. -/
  | immediate
  /-- A number or a label, for `P`. -/
  | target
  /-- A condition. -/
  | condition
  /-- A number, or a label whose distance is taken, for `O`. -/
  | displacement
  deriving DecidableEq, Repr

/-- The kinds of operand lists. -/
inductive Shape where
  | threeRegisters
  | twoRegisters
  | registerImmediate
  | registerIndirect
  | indirectRegister
  | absolute
  | conditional
  | unsupported
  deriving DecidableEq, Repr

namespace Shape

/-- The operands of the shape, from left to right. -/
def slots : Shape → List Slot
  | .threeRegisters => [.register .rd, .register .rs, .register .rt]
  | .twoRegisters => [.register .rd, .register .rs]
  | .registerImmediate => [.register .rd, .immediate]
  | .registerIndirect => [.register .rd, .indirect .rs]
  | .indirectRegister => [.indirect .rs, .register .rt]
  | .absolute => [.target]
  | .conditional => [.condition, .displacement]
  | .unsupported => []

/-- The number of operands. -/
def arity (s : Shape) : Nat :=
  s.slots.length

/-- The operands as they are spelled in messages. -/
def spelling : Shape → String
  | .threeRegisters => "rd, rs, rt"
  | .twoRegisters => "rd, rs"
  | .registerImmediate => "rd, Y"
  | .registerIndirect => "rd, [rs]"
  | .indirectRegister => "[rs], rt"
  | .absolute => "P"
  | .conditional => "cond, O"
  | .unsupported => "?"

/-- The name of the shape in a table listing. -/
def name : Shape → String
  | .threeRegisters => "RD_RS_RT"
  | .twoRegisters => "RD_RS"
  | .registerImmediate => "RD_Y"
  | .registerIndirect => "RD_INDIRECT_RS"
  | .indirectRegister => "INDIRECT_RS_RT"
  | .absolute => "ABSOLUTE"
  | .conditional => "CONDITIONAL"
  | .unsupported => "UNSUPPORTED"

end Shape

/-! ### Letters without case -/

namespace Text

/-- A letter in the form in which keywords are compared: small, and the long s as an s. -/
def foldLetter : CodePoint → CodePoint
  | .char c => if c = 'ſ' then 's' else c.toLower
  | .lone offset => .lone offset

/-- Whether a text spells a keyword, in letters of any case. -/
def spells (keyword : String) (t : Text) : Bool :=
  t.map foldLetter = (ofString keyword).map foldLetter

end Text

namespace Shape

/-! ### Classification -/

/-- Whether blanks next to a character are ignored. -/
def isPunctuation (c : CodePoint) : Bool :=
  c = ',' ∨ c = '[' ∨ c = ']'

/-- Drops the blanks after punctuation. -/
def squeezeAfter : Text → Text
  | [] => []
  | c :: rest => c :: (if isPunctuation c then trimStart (squeezeAfter rest) else squeezeAfter rest)

/-- Drops the blanks next to punctuation, on either side. -/
def squeeze (cs : Text) : Text :=
  (squeezeAfter (squeezeAfter cs).reverse).reverse

/-- The shapes that are known by their full text, in the form that `squeeze` leaves. -/
def spelledShapes : List (String × Shape) :=
  [("rd,rs,rt", .threeRegisters), ("rd,rs", .twoRegisters), ("rd,Y", .registerImmediate),
   ("rd,[rs]", .registerIndirect), ("[rs],rt", .indirectRegister)]

/-- Whether one of the words of a text spells a keyword. -/
def hasWord (keyword : String) (t : Text) : Bool :=
  (wordRuns t).any (spells keyword)

/-- Whether a text names a condition. -/
def hasCondition (t : Text) : Bool :=
  hasWord "cond" t || hasWord "bcond" t

/-- The shape of an operand text. -/
def classify (operands : Text) : Shape :=
  let text := trim operands
  match spelledShapes.find? fun (spelled, _) => spells spelled (squeeze text) with
  | some (_, shape) => shape
  | none =>
    if hasCondition text then
      if hasWord "O" text then .conditional else .unsupported
    else if hasWord "P" text then .absolute
    else .unsupported

end Shape

end GridAsm
