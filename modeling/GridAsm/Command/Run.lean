import GridAsm.Command.Tool
import GridAsm.Listing
import GridAsm.Session
import GridAsm.Text.Console

/-!
# Running the tools

What a command prints, the files it leaves and its exit code.  Notices go to the error output:
warnings as they are, or with `verbose` every notice after its severity.

The commands run on a `Host`: how deep the values of a JSON file may lie inside each other, and what
becomes of a line that is printed, is up to it.

The assembler ends with `0` if all lines are encoded, with `1` if some are not (the artifact is
written all the same), with `2` if the arguments, the rule table or the source cannot be used, and
with `3` if anything else fails.
-/

namespace GridAsm

namespace Command

open Text

/-- What a command runs on. -/
structure Host where
  /-- The number of values that may lie inside each other in a rule table in JSON. -/
  levels : Nat
  /-- A line as the output shows it, unless the output refuses it. -/
  output : Text → Except EncodeFault String
  /-- A line as the error output shows it. -/
  errors : Text → String

/-- A host that prints lines as `Text.outputLine` and `Text.errorLine` say. -/
def Host.console (levels : Nat) : Host :=
  ⟨levels, outputLine, errorLine⟩

/-- What a command leaves behind. -/
structure Outcome where
  /-- The exit code. -/
  exit : ExitStatus
  /-- The lines of the output. -/
  output : List String := []
  /-- The lines of the error output. -/
  errors : List String := []
  /-- Whether the steps that led to a failure are shown after the error output. -/
  traced : Bool := false
  /-- The files. -/
  files : FileTree

/-- Lines as text, each with a line end. -/
def linesText (lines : List String) : String :=
  String.join (lines.map (· ++ "\n"))

/-- The line of a notice, if it is shown.  Control sequences stay in it. -/
def noticeLine (verbose : Bool) (n : Notice) : Option String :=
  if verbose then some (n.severity.name ++ ": " ++ n.text.escaped)
  else if n.isWarning then some n.text.escaped
  else none

/-- What a command has printed so far, and the files. -/
structure Console where
  /-- The lines of the output. -/
  output : List String := []
  /-- The lines of the error output. -/
  errors : List String := []
  /-- The files. -/
  files : FileTree

/-- A part of a command: it prints and writes, and may fail. -/
abbrev Activity (α : Type) : Type :=
  ExceptT Failure (StateM Console) α

namespace Activity

/-- Prints a line. -/
def say (host : Host) (line : Text) : Activity Unit :=
  match host.output line with
  | .ok shown => modify fun c => { c with output := c.output ++ [shown] }
  | .error fault => throw (.unprintable fault)

/-- Prints a line if a condition holds. -/
def sayIf (host : Host) (condition : Bool) (line : Text) : Activity Unit :=
  if condition then say host line else pure ()

/-- Prints notices. -/
def log (verbose : Bool) (notices : List Notice) : Activity Unit :=
  modify fun c => { c with errors := c.errors ++ notices.filterMap (noticeLine verbose) }

/-- Makes an attempt and prints its notices. -/
def attempt {α : Type} (verbose : Bool) (x : Attempt Failure α) : Activity α := do
  let logged := x.run
  log verbose logged.notices
  liftExcept logged.value

/-- Goes on with the files that a change left, or fails with its fault. -/
def settle {α : Type} (result : Except FileFault α × FileTree) : Activity α := do
  modify fun c => { c with files := result.2 }
  match result.1 with
  | .ok a => return a
  | .error fault => throw (.file fault)

end Activity

open Activity

/-- The path of the rule table: that of the settings, unless one is given. -/
def rulesPath (settings : Settings) (a : Assembly) : Path :=
  a.rules.getD settings.rules

/-- The path of the source: that of the settings, unless one is given. -/
def sourcePath (settings : Settings) (a : Assembly) : Path :=
  a.source.getD settings.source

/-- The path of the artifact: beside the source, unless one is given. -/
def artifactPath (settings : Settings) (a : Assembly) : Path :=
  a.output.getD (settings.artifactFor (sourcePath settings a))

/-- Loads the rules and announces the source. -/
def loadRules (host : Host) (settings : Settings) (a : Assembly) : Activity RuleTable := do
  let rules := rulesPath settings a
  let table ← attempt a.verbose (RuleFile.load host.levels (← get).files rules.text)
  log a.verbose [.tableReplaced table.size]
  sayIf host a.verbose ("Rules: " ++ rules.text ++ " (" ++ decimal table.size ++ " rules)")
  sayIf host a.verbose ("Assembling " ++ (sourcePath settings a).text ++ "...")
  return table

/-- Writes the listing to the file that it is wanted in. -/
def storeListing (host : Host) (a : Assembly) (text : Text) : Activity Unit :=
  match a.listing with
  | none => pure ()
  | some path => do
    settle ((← get).files.edit (FileTree.writeText path (text ++ "\n")))
    sayIf host a.verbose ("Wrote listing to " ++ path.text)

/-- Writes the artifact to its file. -/
def storeArtifact (host : Host) (a : Assembly) (program : Program) (path : Path) :
    Activity Unit := do
  let logged := Artifact.writeFile (← get).files program path
  log a.verbose logged.notices
  let written ← settle logged.value
  sayIf host written ("Wrote " ++ decimal program.words.length ++ " words to " ++ path.text)

/-- Prints the listing of a program and writes the files. -/
def storeProgram (host : Host) (settings : Settings) (a : Assembly) (program : Program) :
    Activity Unit := do
  let text := Listing.render program
  sayIf host (!a.quiet) text
  storeListing host a text
  if settings.writesArtifact && !a.noArtifact then
    storeArtifact host a program (artifactPath settings a)

/-- Loads the rules and assembles the source, prints the listing and writes the files. -/
def assembling (host : Host) (settings : Settings) (a : Assembly) : Activity Program := do
  let table ← loadRules host settings a
  let program ← attempt a.verbose
    (SourceFile.assemble (← get).files table (sourcePath settings a))
  storeProgram host settings a program
  return program

/-- The error lines after an assembly with faults. -/
def faultLines (host : Host) (a : Assembly) (program : Program) : List String :=
  (if a.quiet then program.errors.map fun d => host.errors d.render else []) ++
    [decimal program.errors.length ++ " line(s) failed to assemble"]

/-- Runs the assembler. -/
def assemble (host : Host) (settings : Settings) (files : FileTree) (a : Assembly) : Outcome :=
  match (assembling host settings a).run.run { files := files } with
  | (.error failure, c) =>
    let report := failure.category.report failure.message a.verbose (some "Assembly")
    ⟨report.exit, c.output, c.errors ++ [host.errors report.line], report.traced, c.files⟩
  | (.ok program, c) =>
    if program.anyFailed then
      ⟨.linesFailed, c.output, c.errors ++ faultLines host a program, false, c.files⟩
    else ⟨.success, c.output, c.errors, false, c.files⟩

/-- The rules that an inspection shows. -/
def inspectedRules (i : Inspection) (table : RuleTable) : Except UsageError (List Rule) :=
  match i.mnemonic.filter (!·.isEmpty) with
  | none => .ok table.rules
  | some name => match table.find? name with
    | some rule => .ok [rule]
    | none => .error (.invalidValue "--mnemonic" ("no rule for '" ++ name ++ "'"))

/-- The lines of an output up to the first that cannot be printed, and how the command ends. -/
def printedLines (host : Host) : List Text → List String × ExitStatus
  | [] => ([], .success)
  | line :: rest =>
    match host.output line with
    | .ok shown =>
      let (printed, exit) := printedLines host rest
      (shown :: printed, exit)
    | .error _ => ([], .aborted)

/-- Runs the inspector. -/
def inspect (host : Host) (files : FileTree) (i : Inspection) : Outcome :=
  let logged := (RuleFile.load host.levels files i.rules.text).run
  let warnings := logged.notices.filterMap (noticeLine false)
  match logged.value with
  | .error failure =>
    let report := failure.category.report failure.message false none
    ⟨report.exit, [], warnings ++ [host.errors report.line], report.traced, files⟩
  | .ok table => match inspectedRules i table with
    | .error e =>
      ⟨.badInput, [], warnings ++ Tool.inspector.usageReport host.errors e, false, files⟩
    | .ok rules =>
      let last : Text :=
        decimal table.size ++ " rules, " ++ decimal table.mnemonics.length ++ " mnemonics"
      let (printed, exit) := printedLines host (rules.map Rule.text ++ [last])
      ⟨exit, printed, warnings, false, files⟩

/-- The outcome of a call that is not an invocation, or whose arguments are not accepted. -/
def answered (host : Host) (tool : Tool) (files : FileTree) {α : Type}
    (call : Except Refusal (Call α)) (run : α → Outcome) : Outcome :=
  match call with
  | .error (.usage e) => ⟨.badInput, [], tool.usageReport host.errors e, false, files⟩
  | .error (.noPath _) => ⟨.aborted, [], [], false, files⟩
  | .ok .help => ⟨.success, [tool.helpText], [], false, files⟩
  | .ok .version => ⟨.success, [tool.versionText], [], false, files⟩
  | .ok (.run invocation) => run invocation

end Command

/-- Runs a tool in a session.  The assembler asks for the default settings once its arguments have
been accepted. -/
def Session.command (host : Command.Host) (s : Session) (tool : Command.Tool)
    (arguments : List Text) : Command.Outcome × Session :=
  match tool with
  | .assembler =>
    let call := Command.parseAssembly s.files arguments
    let (settings, s) := match call with
      | .ok (.run _) => s.defaultSettings
      | _ => ({}, s)
    let outcome := Command.answered host tool s.files call (Command.assemble host settings s.files)
    (outcome, { s with files := outcome.files })
  | .inspector =>
    let call := Command.parseInspection s.files arguments
    let outcome := Command.answered host tool s.files call (Command.inspect host s.files)
    (outcome, { s with files := outcome.files })

end GridAsm
