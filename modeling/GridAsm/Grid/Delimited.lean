import GridAsm.Text.Basic

/-!
# Delimited text

Tables as lines of fields with a delimiter between them.  A field may stand in double quotes; inside
them a delimiter and a line end are ordinary characters, and a quote is written twice.  What follows
the closing quote is added to the field as it is.  An empty line is a row without fields.

The text has line feeds as its only line ends.
-/

namespace GridAsm.Delimited

/-- A field has more characters than it may have. -/
structure FieldTooLong where
  /-- The number of characters that a field may have. -/
  limit : Nat
  deriving DecidableEq, Repr

/-- The wording of the refusal. -/
def FieldTooLong.message (fault : FieldTooLong) : String :=
  "field larger than field limit (" ++ Text.decimal fault.limit ++ ")"

/-- The number of characters that a field may have in a file. -/
def fieldLimit : Nat := 131072

/-- Where the reader stands in a row. -/
inductive Mode where
  /-- Before the first field. -/
  | rowStart
  /-- After a delimiter. -/
  | fieldStart
  /-- In a field, outside of quotes. -/
  | plain
  /-- In quotes. -/
  | quoted
  /-- After a quote that stands in quotes: it ends them, or the next quote makes one of the two. -/
  | quoteInQuotes
  deriving DecidableEq, Repr

/-- The reader between two characters. -/
structure Reader where
  /-- Where the reader stands. -/
  mode : Mode := .rowStart
  /-- The code points of the field, last first. -/
  field : Text := []
  /-- The number of characters of the field. -/
  size : Nat := 0
  /-- The fields of the row, last first. -/
  row : List Text := []
  /-- The rows, last first. -/
  rows : List (List Text) := []

namespace Reader

/-- Adds a character to the field, which may have at most `limit`. -/
def add (limit : Nat) (r : Reader) (mode : Mode) (c : CodePoint) : Except FieldTooLong Reader :=
  if limit ≤ r.size then .error ⟨limit⟩
  else .ok { r with mode := mode, field := c :: r.field, size := r.size + 1 }

/-- Ends the field. -/
def endField (r : Reader) : Reader :=
  { r with
    mode := .fieldStart
    field := []
    size := 0
    row := r.field.reverse :: r.row }

/-- Ends the row. -/
def endRow (r : Reader) : Reader :=
  { mode := .rowStart, rows := r.row.reverse :: r.rows }

/-- The reader after one character more. -/
def step (limit : Nat) (delimiter : Char) (r : Reader) (c : CodePoint) :
    Except FieldTooLong Reader :=
  match r.mode with
  | .quoted => if c = '"' then .ok { r with mode := .quoteInQuotes } else r.add limit .quoted c
  | .quoteInQuotes =>
    if c = '"' then r.add limit .quoted c
    else if c = delimiter then .ok r.endField
    else if c = '\n' then .ok r.endField.endRow
    else r.add limit .plain c
  | .plain =>
    if c = delimiter then .ok r.endField
    else if c = '\n' then .ok r.endField.endRow
    else r.add limit .plain c
  | mode =>
    if c = '\n' then .ok (if mode = .rowStart then r.endRow else r.endField.endRow)
    else if c = '"' then .ok { r with mode := .quoted }
    else if c = delimiter then .ok r.endField
    else r.add limit .plain c

/-- The rows at the end of the text.  A row without a line end counts; open quotes are closed. -/
def finish (r : Reader) : List (List Text) :=
  if r.mode = .rowStart then r.rows.reverse else r.endField.endRow.rows.reverse

end Reader

/-- The rows of a text whose fields have at most `limit` characters. -/
def rows (limit : Nat) (delimiter : Char) (cs : Text) :
    Except FieldTooLong (List (List Text)) := do
  return (← cs.foldlM (Reader.step limit delimiter) {}).finish

/-! ### Writing -/

/-- A code point inside quotes. -/
def writePoint (p : CodePoint) : Text :=
  if p = '"' then ['"', '"'] else [p]

/-- A field in quotes. -/
def writeField (t : Text) : Text :=
  "\"" ++ t.flatMap writePoint ++ "\""

/-- Rows as text, every field in quotes and every row with a line end. -/
def write (delimiter : Char) (grid : List (List Text)) : Text :=
  grid.flatMap fun row => [CodePoint.char delimiter].intercalate (row.map writeField) ++ "\n"

end GridAsm.Delimited
