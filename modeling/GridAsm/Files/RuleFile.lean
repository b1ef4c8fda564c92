import GridAsm.Failure
import GridAsm.RuleTable

/-!
# Rule table files

A rule table is a grid of cells in a JSON file, as a list of rows, or in a file of delimited text
with commas or tabs.  The suffix of the file's name tells the format.  The file is UTF-8, with or
without a byte-order mark before it.  How deep the values of a JSON file may lie inside each other
depends on where it is read, so the number of levels is given.
-/

namespace GridAsm.RuleFile

open Text

/-- The formats of rule table files. -/
inductive Format where
  | json
  | delimited (delimiter : Char)
  deriving DecidableEq, Repr

/-- The format of a suffix in small letters. -/
def Format.ofSuffix? (suffix : Text) : Option Format :=
  if suffix = ".json" then some .json
  else if suffix = ".csv" then some (.delimited ',')
  else if suffix = ".tsv" then some (.delimited '\t')
  else none

/-- The format of the file at a path. -/
def format (p : Path) : Except Failure Format :=
  let suffix := lower p.suffix
  match Format.ofSuffix? suffix with
  | some f => .ok f
  | none => .error (.ruleTable p.text (.unknownFormat (if suffix = "" then p.name else suffix)))

/-- The text of the file at a path. -/
def readText (files : FileTree) (p : Path) : Except Failure Text :=
  match files.read p with
  | .error (.failed .notFound _) => .error (.ruleTable p.text .missing)
  | .error (.failed problem path) =>
    .error (.ruleTable p.text (.unreadable (.failed problem path)))
  | .error fault => .error (.file fault)
  | .ok bytes => match decodeUtf8 (dropMark bytes) with
    | .ok cs => .ok (unifyLineEnds cs)
    | .error fault => .error (.decode fault)

/-- The cells of a row: a list, or nothing. -/
def rowCells? : Json.Value → Option (List Json.Value)
  | .null => some []
  | .list cells => some cells
  | _ => none

/-- The rows of a JSON value: a list of rows. -/
def rowsOfValue? : Json.Value → Option (List (List Json.Value))
  | .list rows => rows.mapM rowCells?
  | _ => none

/-- The grid of a text in JSON. -/
def jsonGrid (levels : Nat) (p : Path) (text : Text) : Except Failure (List (List Json.Value)) :=
  match Json.parse { levels := levels } text with
  | .error (.syntaxAt problem offset) =>
    .error (.ruleTable p.text (.malformed (Json.SyntaxFault.locate text problem offset)))
  | .error (.tooManyDigits count) => .error (.number (.tooManyDigits count))
  | .error (.tooDeep container) => .error (.tooDeep container)
  | .ok v => match rowsOfValue? v with
    | some rows => .ok rows
    | none => .error (.ruleTable p.text .notRows)

/-- The grid of a delimited text. -/
def delimitedGrid (delimiter : Char) (cs : Text) : Except Failure (List (List Json.Value)) :=
  match Delimited.rows Delimited.fieldLimit delimiter cs with
  | .ok rows => .ok (rows.map fun row => row.map .text)
  | .error fault => .error (.field fault)

/-- The grid of the file at a path. -/
def grid (levels : Nat) (files : FileTree) (p : Path) :
    Except Failure (List (List Json.Value)) := do
  let f ← format p
  let cs ← readText files p
  match f with
  | .json => jsonGrid levels p cs
  | .delimited delimiter => delimitedGrid delimiter cs

/-- The rule table of the file with a name, which must have a rule.  A table without rules is
reported under the name as it is given, and a file that cannot be read by its path. -/
def load (levels : Nat) (files : FileTree) (name : Text) : Attempt Failure RuleTable := do
  let rows ← liftExcept (grid levels files (.parse name))
  if rows.length < 2 then throw (.ruleTable name .empty)
  let table ← (RuleTable.ofGrid rows).mapFault Failure.number
  if table.size = 0 then throw (.ruleTable name .noRules)
  Attempt.note (.tableLoaded name table.size)
  return table

end GridAsm.RuleFile
