import GridAsm.Diagnostic
import GridAsm.Files.Tree
import GridAsm.Grid.Delimited
import GridAsm.Json.Reader
import GridAsm.Layout

/-!
# Failures

What keeps a table or a source from being loaded, or a run from being finished.  A failure has a
wording and a category, and the category decides the exit code of a command.
-/

namespace GridAsm

open Text

/-- Why a rule table cannot be used. -/
inductive TableProblem where
  /-- The name of the file has a suffix of no known format, or none. -/
  | unknownFormat (suffix : Text)
  /-- There is no such file. -/
  | missing
  /-- The file cannot be read. -/
  | unreadable (fault : FileFault)
  /-- The file is no JSON. -/
  | malformed (fault : Json.SyntaxFault)
  /-- The file is JSON, but not a list of rows. -/
  | notRows
  /-- There is no row beside the header. -/
  | empty
  /-- No row has a mnemonic. -/
  | noRules
  deriving DecidableEq, Repr

/-- The wording of the problem. -/
def TableProblem.text : TableProblem → Text
  | .unknownFormat suffix =>
    "unsupported rule table format '" ++ suffix ++ "' (expected .json, .csv or .tsv)"
  | .missing => "rule table not found"
  | .unreadable fault => "cannot read rule table: " ++ fault.message
  | .malformed fault => "invalid JSON: " ++ fault.message
  | .notRows => "expected an array of rows"
  | .empty => "rule table is empty"
  | .noRules => "rule table has no rules"

/-- Why a source cannot be used. -/
inductive SourceProblem where
  /-- There is no such file. -/
  | missing
  /-- The file cannot be read. -/
  | unreadable (fault : FileFault)
  /-- The file holds blanks only. -/
  | empty
  deriving DecidableEq, Repr

/-- The wording of the problem. -/
def SourceProblem.text : SourceProblem → String
  | .missing => "source file not found"
  | .unreadable fault => "cannot read source: " ++ fault.message
  | .empty => "source file is empty"

/-- What keeps a run from being finished. -/
inductive Failure where
  /-- The rule table of a name cannot be used. -/
  | ruleTable (name : Text) (problem : TableProblem)
  /-- The source at a path cannot be used. -/
  | source (path : Path) (problem : SourceProblem)
  /-- A file cannot be read or written. -/
  | file (fault : FileFault)
  /-- A file is no UTF-8. -/
  | decode (fault : DecodeFault)
  /-- A number of a table is too long. -/
  | number (fault : NumberFault)
  /-- A field of a table is too long. -/
  | field (fault : Delimited.FieldTooLong)
  /-- A value of a table lies too deep inside others. -/
  | tooDeep (container : Json.Container)
  /-- A line cannot be printed. -/
  | unprintable (fault : EncodeFault)
  deriving DecidableEq, Repr

/-- The wording of the failure. -/
def Failure.message : Failure → Text
  | .ruleTable name problem => name ++ ": " ++ problem.text
  | .source path problem => path.text ++ ": " ++ problem.text
  | .file fault => fault.message
  | .decode fault => fault.message
  | .number fault => fault.message
  | .field fault => fault.message
  | .tooDeep container => container.tooDeepText
  | .unprintable fault => fault.message

/-- The kinds of failures that a command tells apart. -/
inductive Category where
  /-- A line cannot be encoded, or the assembler fails otherwise. -/
  | assembly
  /-- The rule table cannot be used. -/
  | ruleTable
  /-- The source cannot be used. -/
  | source
  /-- An argument is not allowed. -/
  | parameter
  /-- A file is missing. -/
  | missingFile
  /-- A file may not be touched. -/
  | forbiddenFile
  /-- Anything else. -/
  | unexpected
  deriving DecidableEq, Repr

/-- The category of a fault of a file. -/
def FileFault.category : FileFault → Category
  | .failed .notFound _ => .missingFile
  | _ => .unexpected

/-- The category of the failure. -/
def Failure.category : Failure → Category
  | .ruleTable .. => .ruleTable
  | .source .. => .source
  | .file fault => fault.category
  | _ => .unexpected

/-! ### Exit codes -/

/-- How a command ends. -/
inductive ExitStatus where
  | success
  | linesFailed
  | badInput
  | unexpected
  /-- The command is broken off without a word. -/
  | aborted
  deriving DecidableEq, Repr

/-- The number of the exit code. -/
def ExitStatus.number : ExitStatus → Nat
  | .success => 0
  | .linesFailed => 1
  | .badInput => 2
  | .unexpected => 3
  | .aborted => 1

/-- The exit code of a category. -/
def Category.exitStatus : Category → ExitStatus
  | .assembly => .linesFailed
  | .ruleTable | .source | .parameter | .missingFile | .forbiddenFile => .badInput
  | .unexpected => .unexpected

/-- A failure as a command reports it. -/
structure Report where
  /-- The line for the error output. -/
  line : Text
  /-- Whether the steps that led to the failure are shown after it. -/
  traced : Bool
  /-- The exit code. -/
  exit : ExitStatus
  deriving DecidableEq, Repr

/-- Reports a failure.  `task` is what the command was about, for failures of assembly. -/
def Category.report (c : Category) (message : Text) (verbose : Bool) (task : Option Text) :
    Report :=
  match c.exitStatus with
  | .unexpected => ⟨"Internal error: " ++ message, verbose, .unexpected⟩
  | .linesFailed =>
    let heading : Text := match task with
      | some t => if t.isEmpty then "Error" else t ++ " error"
      | none => "Error"
    ⟨heading ++ ": " ++ message, false, .linesFailed⟩
  | status => ⟨"Error: " ++ message, false, status⟩

end GridAsm
