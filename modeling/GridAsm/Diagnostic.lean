import GridAsm.Text.Basic

/-!
# Diagnostics

A line that cannot be encoded has a `LineFault`, which knows its wording and its hint.  A
`Diagnostic` is such a fault with the place of the line and its text, once they are known.
-/

namespace GridAsm

open Text

/-- A place in a source. -/
structure Location where
  /-- The name of the source. -/
  filename : Text
  /-- The line, counted from one. -/
  line : Int
  /-- The column, counted from one; zero or less if it is not known. -/
  column : Int := 0
  deriving DecidableEq, Repr

/-- The place as text: the name, the line and the column if it is known. -/
def Location.text (l : Location) : Text :=
  l.filename ++ ":" ++ decimal l.line ++ (if 0 < l.column then ":" ++ decimal l.column else "")

/-- A question whether one of the names was meant; three of them at most. -/
def suggestion : List Text → Option Text
  | [] => none
  | names =>
    let shown : List Text := (names.take 3).map fun name => "'" ++ name ++ "'"
    some ("did you mean " ++ Text.join ", " shown ++ "?")

/-- Why operands do not fit a rule. -/
inductive Misfit where
  /-- The rule has no shape that instructions could have. -/
  | unsupported (operands : Text)
  /-- There are more or fewer operands than the shape has. -/
  | count (expected got : Nat)
  /-- An operand is no register in brackets. -/
  | notIndirect (token : Text)
  /-- A reason given in words. -/
  | other (reason : Text)
  deriving DecidableEq, Repr

/-- The wording of a misfit. -/
def Misfit.text : Misfit → Text
  | .unsupported operands => "rule declares unsupported operand pattern '" ++ operands ++ "'"
  | .count expected got =>
    "expected " ++ decimal expected ++ " operand(s), got " ++ decimal got
  | .notIndirect token => "expected register-indirect operand, got '" ++ token ++ "'"
  | .other reason => reason

/-- Why a line cannot be encoded. -/
inductive LineFault where
  /-- No rule has the mnemonic; `similar` holds names that come close to it. -/
  | unknownMnemonic (mnemonic : Text) (similar : List Text)
  /-- The operands do not fit the rule, whose operands are spelled `expected`. -/
  | badOperands (mnemonic : Text) (misfit : Misfit) (expected : Option Text)
  /-- A register is none of the sixteen. -/
  | invalidRegister (token : Text)
  /-- A name is neither a number nor a label; `similar` holds labels that come close to it. -/
  | unresolvedSymbol (symbol : Text) (similar : List Text)
  /-- A fault given in words. -/
  | other (message : Text) (hint : Option Text)
  deriving DecidableEq, Repr

namespace LineFault

/-- The wording of the fault. -/
def message : LineFault → Text
  | .unknownMnemonic mnemonic _ => "unknown mnemonic '" ++ mnemonic ++ "'"
  | .badOperands mnemonic misfit _ => "bad operands for '" ++ mnemonic ++ "': " ++ misfit.text
  | .invalidRegister token => "invalid register '" ++ token ++ "'"
  | .unresolvedSymbol symbol _ => "unresolved symbol '" ++ symbol ++ "'"
  | .other message _ => message

/-- What might mend the fault. -/
def hint : LineFault → Option Text
  | .unknownMnemonic _ similar => suggestion similar
  | .badOperands mnemonic _ expected =>
    (expected.filter (!·.isEmpty)).map fun spelled => mnemonic ++ " expects '" ++ spelled ++ "'"
  | .invalidRegister _ => some "registers are r0 to r15"
  | .unresolvedSymbol _ similar => suggestion similar
  | .other _ hint => hint

end LineFault

/-- A fault with its place and the text of its line. -/
structure Diagnostic where
  /-- What is wrong. -/
  fault : LineFault
  /-- Where it is. -/
  location : Option Location := none
  /-- The text of the line. -/
  sourceLine : Option Text := none
  deriving DecidableEq, Repr

namespace Diagnostic

/-- The diagnostic at another place. -/
def inContext (d : Diagnostic) (location : Location) (sourceLine : Option Text) : Diagnostic :=
  { d with location := some location, sourceLine := sourceLine }

/-- The lines of the diagnostic: what is wrong and where, the text of the line if the place is
known, and the hint if there is one. -/
def renderLines (d : Diagnostic) : List Text :=
  let place : Text := match d.location with
    | some l => l.text ++ ": "
    | none => ""
  let quote : List Text := match d.location, d.sourceLine with
    | some _, some text => ["    " ++ text]
    | _, _ => []
  let hint : List Text := match d.fault.hint with
    | some h => if h.isEmpty then [] else ["hint: " ++ h]
    | none => []
  (place ++ "error: " ++ d.fault.message) :: quote ++ hint

/-- The text of the diagnostic. -/
def render (d : Diagnostic) : Text :=
  Text.join "\n" d.renderLines

end Diagnostic

end GridAsm
