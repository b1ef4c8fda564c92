import GridAsm.Operand.Token
import GridAsm.Rule

/-!
# Operand values

The values that the operands of an instruction give to the fields of its word.  `Operands.parse`
reads the tokens of a line from left to right, each into the slot that the rule's shape has for it,
and stops at the first that does not fit.
-/

namespace GridAsm

open Text

/-- The values of an instruction's operands; what the instruction does not use is zero. -/
structure Operands where
  /-- The destination register. -/
  rd : Int := 0
  /-- The first source register. -/
  rs : Int := 0
  /-- The second source register. -/
  rt : Int := 0
  /-- The immediate value. -/
  y : Int := 0
  /-- The jump target. -/
  p : Int := 0
  /-- The branch displacement. -/
  o : Int := 0
  /-- The condition code. -/
  cond : Int := 0
  deriving DecidableEq, Repr

namespace Operands

/-- The value of a register, by its name; zero for any other name. -/
def register (v : Operands) (name : Text) : Int :=
  if name = "rd" then v.rd else if name = "rs" then v.rs else if name = "rt" then v.rt else 0

/-- The value of an immediate, by its name in letters of any case; zero for any other name. -/
def immediate (v : Operands) (name : Text) : Int :=
  let name := upper name
  if name = "Y" then v.y else if name = "P" then v.p else if name = "O" then v.o else 0

/-- The values with one register more. -/
def setRegister (v : Operands) (role : RegisterRole) (n : Int) : Operands :=
  match role with
  | .rd => { v with rd := n }
  | .rs => { v with rs := n }
  | .rt => { v with rt := n }

/-- What the reading of operands depends on beside the tokens. -/
structure Context where
  /-- The mnemonic. -/
  mnemonic : Text
  /-- The spelling of the operands. -/
  expected : Text
  /-- The labels. -/
  labels : LabelTable
  /-- The address of the instruction. -/
  pc : Int

/-- The values with the one of a token, read into a slot. -/
def read (ctx : Context) (v : Operands) (slot : Slot) (token : Text) :
    Attempt LineFault Operands :=
  match slot with
  | .register role => return v.setRegister role (← liftExcept (Token.register token))
  | .indirect role =>
    return v.setRegister role (← liftExcept (Token.indirect ctx.mnemonic ctx.expected token))
  | .immediate => return { v with y := ← liftExcept (Token.value ctx.labels token) }
  | .target => return { v with p := ← liftExcept (Token.value ctx.labels token) }
  | .condition => return { v with cond := ← liftM (Token.condition token) }
  | .displacement =>
    return { v with o := ← liftExcept (Token.displacement ctx.labels ctx.pc token) }

/-- The values with those of tokens, read into slots from left to right. -/
def readAll (ctx : Context) (v : Operands) : List Slot → List Text → Attempt LineFault Operands
  | slot :: slots, token :: tokens => do
    let v ← v.read ctx slot token
    readAll ctx v slots tokens
  | _, _ => return v

/-- The values of the tokens of an instruction at `pc`. -/
def parse (rule : Rule) (tokens : List Text) (labels : LabelTable) (pc : Int) :
    Attempt LineFault Operands :=
  let expected := rule.shape.spelling
  if rule.shape = .unsupported then
    throw (.badOperands rule.mnemonic (.unsupported rule.operands) none)
  else if tokens.length ≠ rule.shape.arity then
    throw (.badOperands rule.mnemonic (.count rule.shape.arity tokens.length) (some expected))
  else
    readAll ⟨rule.mnemonic, expected, labels, pc⟩ {} rule.shape.slots tokens

end Operands

end GridAsm
