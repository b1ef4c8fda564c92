import GridAsm.Failure
import GridAsm.Program

/-!
# Source files

A source is a file in UTF-8 that holds more than blanks.  Its line ends are unified when it is read.
-/

namespace GridAsm.SourceFile

open Text

/-- The text of the source at a path. -/
def load (files : FileTree) (p : Path) : Except Failure Text :=
  match files.read p with
  | .error (.failed .notFound _) => .error (.source p .missing)
  | .error (.failed problem path) => .error (.source p (.unreadable (.failed problem path)))
  | .error fault => .error (.file fault)
  | .ok bytes => match decodeUtf8 bytes with
    | .error fault => .error (.decode fault)
    | .ok cs =>
      let text := unifyLineEnds cs
      if allBlank text then .error (.source p .empty) else .ok text

/-- The program of the source at a path. -/
def assemble (files : FileTree) (t : RuleTable) (p : Path) : Attempt Failure Program := do
  let source ← liftExcept (load files p)
  liftM (t.assemble source p.text)

end GridAsm.SourceFile
