import GridAsm.Program

/-!
# Listings

A program as a table: a row for each line of the source with its number, its address, its code and
its word, then the faults, and a summary.
-/

namespace GridAsm.Listing

open Text

/-- One row: the texts of the columns up to the source, aligned, and the source. -/
def row (number pc mnemonic operands hex binary segments source : Text) : Text :=
  Text.join "  "
    [alignRight 5 number, alignRight 4 pc, alignLeft 8 mnemonic, alignLeft 14 operands,
     alignLeft 6 hex, alignLeft 19 binary, alignLeft 28 segments, source]

/-- The heading. -/
def header : Text :=
  row "LINE" "PC" "MNEMONIC" "OPERANDS" "HEX" "BINARY" "SEGMENTS" "SOURCE"

/-- The rule below the heading. -/
def rule : Text :=
  List.replicate 110 (.char '-')

/-- An address: four hexadecimal digits or more. -/
def address (pc : Nat) : Text :=
  ofChars (zeroFilled 4 (digitsUpper 16 pc))

/-- The row of a line. -/
def lineRow (l : Line) : Text :=
  row (decimal l.number) ((l.pc.map address).getD "") l.mnemonic l.operands l.hex l.binary
    l.segmented (trimEnd l.text)

/-- The faults under their heading; nothing if there are none. -/
def errorRows (errors : List Diagnostic) : List Text :=
  if errors.isEmpty then [] else "" :: "Errors:" :: errors.map Diagnostic.render

/-- The last line. -/
def summary (p : Program) : String :=
  let errors := p.errors.length
  decimal p.words.length ++ " words, " ++ decimal errors ++
    (if errors = 1 then " error" else " errors")

/-- The rows of a listing.  A fault may take several lines. -/
def rows (p : Program) : List Text :=
  let closing : List Text := ["", summary p]
  header :: rule :: p.lines.map lineRow ++ errorRows p.errors ++ closing

/-- The listing of a program. -/
def render (p : Program) : Text :=
  Text.join "\n" (rows p)

end GridAsm.Listing
