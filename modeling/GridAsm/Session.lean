import GridAsm.Files.Artifact
import GridAsm.Files.RuleFile
import GridAsm.Files.SourceFile
import GridAsm.Settings

/-!
# Sessions

An assembler at work: the table it uses, the sink for its words, the program it made last, and what
surrounds it (files, environment and default settings).

`Work` changes a session step by step, and what it has changed before it fails stays changed.  An
`Operation` is what an assembler can be asked to do, and `Session.perform` answers it; `Session.run`
answers one operation after the other.
-/

namespace GridAsm

open Text

/-- The state of an assembler and of its surroundings. -/
structure Session where
  /-- The rule table in use. -/
  table : RuleTable := {}
  /-- The sink in memory. -/
  sink : Artifact.Sink := {}
  /-- The program made last. -/
  last : Program := Program.empty
  /-- The files. -/
  files : FileTree := {}
  /-- The environment. -/
  environment : Environment := []
  /-- The default settings, once they have been asked for. -/
  settings : Option Settings := none

/-- Work on a session: it may change the session and leave notices, and may fail. -/
abbrev Work (ε α : Type) : Type :=
  ExceptT ε (StateT Session Logged) α

namespace Session

/-! ### Steps -/

/-- Makes an attempt, which leaves the session as it is. -/
def attempt {ε α : Type} (x : Attempt ε α) : Work ε α :=
  ExceptT.mk (StateT.lift x.run)

/-- Replaces the table. -/
def useTable (table : RuleTable) : Work Failure Unit := do
  modify fun s => { s with table := table }
  attempt (Attempt.note (.tableReplaced table.size))

/-- Loads the table of a file and puts it in the place of the old one. -/
def useTableFile (levels : Nat) (name : Text) : Work Failure RuleTable := do
  let table ← attempt (RuleFile.load levels (← get).files name)
  useTable table
  return table

/-- Keeps a program as the last one. -/
def keep (program : Program) : Work Failure Program := do
  modify fun s => { s with last := program }
  return program

/-- Assembles a source. -/
def assemble (source filename : Text) : Work Failure Program := do
  keep (← attempt (liftM ((← get).table.assemble source filename)))

/-- Assembles the source of a file. -/
def assembleFrom (p : Path) : Work Failure Program := do
  let s ← get
  keep (← attempt (SourceFile.assemble s.files s.table p))

/-- The word of a code. -/
def wordOf (code : Text) (pc : Int) (labels : LabelTable) : Work LineFault Int := do
  attempt ((← get).table.wordOf code pc labels)

/-- Hands a program to the sink in memory; tells whether it had words. -/
def handOver (program : Program) : Work Failure Bool := do
  let (written, sink) ← attempt (liftM ((← get).sink.write program))
  modify fun s => { s with sink := sink }
  return written

/-- Writes the last program to a file; tells whether it had words. -/
def writeFile (p : Path) : Work FileFault Bool := do
  let s ← get
  let (written, files) ← attempt (liftM (Artifact.writeFile s.files s.last p))
  modify fun s => { s with files := files }
  liftExcept written

/-- The default settings, which are taken from the environment when they are first asked for. -/
def defaultSettings (s : Session) : Settings × Session :=
  match s.settings with
  | some settings => (settings, s)
  | none =>
    let settings := Settings.ofEnvironment s.environment
    (settings, { s with settings := some settings })

end Session

/-! ### Operations -/

/-- What an assembler can be asked to do.  A file is read from the files of that time. -/
inductive Operation where
  /-- To replace the table. -/
  | useTable (table : RuleTable)
  /-- To replace the table by that of a file. -/
  | useTableFile (levels : Nat) (files : FileTree) (name : Text)
  /-- To assemble a source. -/
  | assemble (source filename : Text)
  /-- To assemble the source of a file. -/
  | assembleFrom (files : FileTree) (p : Path)
  /-- To encode one code. -/
  | wordOf (code : Text) (pc : Int) (labels : LabelTable)
  /-- To hand a program to the sink, whenever it was made. -/
  | handOver (program : Program)

/-- What an assembler answers. -/
inductive Answer where
  | done
  | table (table : RuleTable)
  | program (program : Program)
  | word (result : Except LineFault Int)
  | written (any : Bool)
  | refused (failure : Failure)

namespace Session

/-- The answer of some work; if the work fails, its failure is the answer. -/
def answered (x : Work Failure Answer) : StateT Session Logged Answer := do
  match ← x.run with
  | .ok answer => return answer
  | .error failure => return .refused failure

/-- Answers an operation. -/
def perform : Operation → StateT Session Logged Answer
  | .useTable table => answered do
    useTable table
    return .done
  | .useTableFile levels files name => answered do
    modify fun s => { s with files := files }
    return .table (← useTableFile levels name)
  | .assemble source filename => answered do
    return .program (← assemble source filename)
  | .assembleFrom files p => answered do
    modify fun s => { s with files := files }
    return .program (← assembleFrom p)
  | .wordOf code pc labels => do
    return .word (← (wordOf code pc labels).run)
  | .handOver program => answered do
    return .written (← handOver program)

/-- Answers one operation after the other. -/
def run : List Operation → StateT Session Logged (List Answer)
  | [] => return []
  | op :: rest => do
    let answer ← perform op
    let answers ← run rest
    return answer :: answers

end Session

end GridAsm
