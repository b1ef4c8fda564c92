import GridAsm.RuleTable
import GridAsm.SourceLine
import GridAsm.Word

/-!
# Programs

A source becomes a program in two passes: the first gives every label its address, the second
encodes line after line.  A line that cannot be encoded keeps its address and its fault, and the
others are not affected.
-/

namespace GridAsm

open Text

/-- The word of a code at the address `pc`. -/
def RuleTable.wordOf (t : RuleTable) (code : Text) (pc : Int) (labels : LabelTable) :
    Attempt LineFault Int := do
  let (mnemonic, operandText) := codeParts code
  match t.find? mnemonic with
  | none => throw (.unknownMnemonic mnemonic (closeMatches mnemonic t.mnemonics))
  | some rule =>
    let v ← Operands.parse rule (Token.split operandText) labels pc
    return rule.encode v

/-- A line's code and what became of it. -/
structure Instruction where
  /-- The address. -/
  pc : Nat
  /-- The mnemonic, in capitals. -/
  mnemonic : Text
  /-- The text of the operands. -/
  operands : Text
  /-- The word, or why there is none. -/
  result : Except Diagnostic Int

/-- A line of a program. -/
structure Line where
  /-- The number of the line, counted from one. -/
  number : Nat
  /-- The text of the line. -/
  text : Text
  /-- The label as it is written. -/
  label : Option Text
  /-- The code, if there is any. -/
  instruction : Option Instruction

/-- What became of a line. -/
inductive LineStatus where
  | blank
  | labelOnly
  | encoded
  | failed
  deriving DecidableEq, Repr

namespace Line

/-- What became of the line. -/
def status (l : Line) : LineStatus :=
  match l.instruction with
  | some i => match i.result with
    | .ok _ => .encoded
    | .error _ => .failed
  | none => if l.label.isSome then .labelOnly else .blank

/-- The address, if the line takes one. -/
def pc (l : Line) : Option Nat :=
  l.instruction.map Instruction.pc

/-- The mnemonic, empty if there is no code. -/
def mnemonic (l : Line) : Text :=
  (l.instruction.map Instruction.mnemonic).getD ""

/-- The text of the operands, empty if there is no code. -/
def operands (l : Line) : Text :=
  (l.instruction.map Instruction.operands).getD ""

/-- The word, if the line is encoded. -/
def word (l : Line) : Option Int :=
  l.instruction.bind fun i => i.result.toOption

/-- Why the line is not encoded, if it is not. -/
def error (l : Line) : Option Diagnostic :=
  l.instruction.bind fun i => match i.result with
    | .ok _ => none
    | .error d => some d

/-- The word in hexadecimal, empty if there is none. -/
def hex (l : Line) : Text :=
  (l.word.map Word.hex).getD ""

/-- The word in binary, empty if there is none. -/
def binary (l : Line) : Text :=
  (l.word.map Word.binary).getD ""

/-- The word in its parts, empty if there is none. -/
def segmented (l : Line) : Text :=
  (l.word.map (Word.segmented · l.mnemonic)).getD ""

end Line

/-- An assembled source. -/
structure Program where
  /-- The name of the source. -/
  filename : Text
  /-- The labels. -/
  labels : LabelTable
  /-- The lines, one for each of the source. -/
  lines : List Line

namespace Program

/-- The name of a source that is no file. -/
def inputName : String :=
  "<input>"

/-- The program without lines. -/
def empty : Program :=
  ⟨inputName, {}, []⟩

/-- The words, in order. -/
def words (p : Program) : List Int :=
  p.lines.filterMap Line.word

/-- The words in hexadecimal, in order. -/
def hexWords (p : Program) : List Text :=
  p.words.map Word.hex

/-- The faults, in order. -/
def errors (p : Program) : List Diagnostic :=
  p.lines.filterMap Line.error

/-- Whether a line is not encoded. -/
def anyFailed (p : Program) : Bool :=
  p.lines.any (·.status = .failed)

/-- Hexadecimal words as a file: one in a line, without a line end after the last. -/
def artifactText (hexWords : List Text) : Text :=
  Text.join "\n" hexWords

/-- The words of the program as a file. -/
def artifact (p : Program) : Text :=
  artifactText p.hexWords

end Program

namespace RuleTable

/-- The word of a line's code, or the diagnostic of the line. -/
def resultOf (t : RuleTable) (labels : LabelTable) (filename : Text) (number : Nat)
    (text code : Text) (pc : Nat) : Logged (Except Diagnostic Int) := do
  match ← (t.wordOf code pc labels).run with
  | .ok word => return .ok word
  | .error fault =>
    Logged.note (.lineFailed number fault.message)
    return .error ⟨fault, some ⟨filename, number, 0⟩, some (trim text)⟩

/-- The line of a program; `pc` is the address that it takes if it has code. -/
def lineOf (t : RuleTable) (labels : LabelTable) (filename : Text) (number : Nat)
    (text : Text) (pc : Nat) : Logged Line := do
  let line := SourceLine.parse text
  if line.hasCode then
    let (mnemonic, operands) := codeParts line.code
    let result ← t.resultOf labels filename number text line.code pc
    return ⟨number, text, line.label, some ⟨pc, mnemonic, operands, result⟩⟩
  else return ⟨number, text, line.label, none⟩

/-- The lines of a program from a number and an address on. -/
def linesFrom (t : RuleTable) (labels : LabelTable) (filename : Text) (number pc : Nat) :
    List Text → Logged (List Line)
  | [] => return []
  | text :: rest => do
    let line ← t.lineOf labels filename number text pc
    let next := if line.instruction.isSome then pc + 1 else pc
    return line :: (← t.linesFrom labels filename (number + 1) next rest)

/-- The program of a source. -/
def assemble (t : RuleTable) (source filename : Text) : Logged Program := do
  let texts := sourceLines source
  let labels ← LabelTable.ofLines texts
  let lines ← t.linesFrom labels filename 1 0 texts
  let program : Program := ⟨filename, labels, lines⟩
  Logged.note (.assembled filename program.words.length program.errors.length labels.entries.length)
  return program

end RuleTable

end GridAsm
