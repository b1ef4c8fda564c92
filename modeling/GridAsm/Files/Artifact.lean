import GridAsm.Failure
import GridAsm.Program

/-!
# Artifacts

The words of a program, handed over in hexadecimal: to a file, or to a sink in memory that keeps
all it was given.  A program without words is not handed over.
-/

namespace GridAsm.Artifact

open Text

/-- The description of a file as the place for an artifact. -/
def fileSinkText (p : Path) : Text :=
  "FileHexSink(" ++ quoted p.text ++ ")"

/-- Writes the words of a program to a file; tells whether there were any, and gives the files after
it. -/
def writeFile (files : FileTree) (program : Program) (p : Path) :
    Logged (Except FileFault Bool × FileTree) :=
  if program.words.isEmpty then ⟨(.ok false, files), [.nothingToWrite]⟩
  else match files.edit (FileTree.writeText p program.artifact) with
    | (.ok _, files) => ⟨(.ok true, files), [.artifactWritten program.words.length p.text]⟩
    | (.error fault, files) => return (.error fault, files)

/-- A sink in memory: what it was given, the latest last. -/
structure Sink where
  /-- The hexadecimal words of each program. -/
  writes : List (List Text) := []
  deriving DecidableEq, Repr

/-- The words that the sink was given last, none if there was nothing. -/
def Sink.last (s : Sink) : List Text :=
  s.writes.getLast?.getD []

/-- Hands the words of a program to the sink; tells whether there were any. -/
def Sink.write (s : Sink) (program : Program) : Logged (Bool × Sink) :=
  if program.words.isEmpty then ⟨(false, s), [.nothingToWrite]⟩
  else return (true, ⟨s.writes ++ [program.hexWords]⟩)

end GridAsm.Artifact
