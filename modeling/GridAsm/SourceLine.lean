import GridAsm.Label
import GridAsm.Notice
import GridAsm.Text.Split
import GridAsm.Text.Upper
import GridAsm.Text.WordChar

/-!
# Source lines

A line has an optional label before a colon, optional code and an optional comment after a
semicolon.  The code is a mnemonic and its operands.  Every line with code takes one address, and a
label has the address of the next such line.
-/

namespace GridAsm

open Text

/-- A line without its comment: its label and its code. -/
structure SourceLine where
  /-- The label as it is written. -/
  label : Option Text
  /-- The code, empty if there is none. -/
  code : Text
  deriving DecidableEq, Repr

namespace SourceLine

/-- A character that a label may start with. -/
def startsLabel (p : CodePoint) : Bool :=
  p.satisfies fun c => c.isAlpha || c == '_'

/-- Whether a line feed stands in a text before its last character. -/
def hasInnerLineEnd (cs : Text) : Bool :=
  cs.dropLast.contains '\n'

/-- The label at the start of a text and the rest after its colon.  Only the last character of the
rest may be a line feed. -/
def label? (cs : Text) : Option (Text × Text) :=
  match cs with
  | [] => none
  | c :: rest =>
    if startsLabel c then
      match trimStart (rest.dropWhile isWordChar) with
      | .char ':' :: after =>
        let body := trimStart after
        if hasInnerLineEnd body then none else some (c :: rest.takeWhile isWordChar, body)
      | _ => none
    else none

/-- A text without a comment, split into its label and its code. -/
def ofText (text : Text) : SourceLine :=
  match label? text with
  | some (label, rest) => ⟨some label, trim rest⟩
  | none => ⟨none, text⟩

/-- A line without its comment and the blanks around it. -/
def withoutComment (line : Text) : Text :=
  trim (before ';' line)

/-- The parts of a line. -/
def parse (line : Text) : SourceLine :=
  ofText (withoutComment line)

/-- The name under which the label is known. -/
def labelName (l : SourceLine) : Option Text :=
  l.label.map upper

/-- Whether the line takes an address. -/
def hasCode (l : SourceLine) : Bool :=
  l.code ≠ ""

end SourceLine

/-- The mnemonic of a code, in capitals, and the text of its operands. -/
def codeParts (code : Text) : Text × Text :=
  let (word, rest) := firstWord (trim code)
  (upper word, trim rest)

/-- The lines of a source. -/
def sourceLines (source : Text) : List Text :=
  lines source

namespace LabelTable

/-- The table after one line more, which would take the address `address`. -/
def addLine (t : LabelTable) (address : Int) (line : SourceLine) : Logged LabelTable :=
  match line.labelName with
  | none => return t
  | some name =>
    match t.find? name with
    | some kept => ⟨t, [.labelRedefined name address kept]⟩
    | none => return t.define name address

/-- The table after the lines from `address` on. -/
def addLines (t : LabelTable) (address : Int) : List SourceLine → Logged LabelTable
  | [] => return t
  | line :: rest => do
    let t ← t.addLine address line
    t.addLines (if line.hasCode then address + 1 else address) rest

/-- The labels of a source, each with the address of its first definition. -/
def ofLines (lines : List Text) : Logged LabelTable :=
  addLines {} 0 (lines.map SourceLine.parse)

end LabelTable

end GridAsm
