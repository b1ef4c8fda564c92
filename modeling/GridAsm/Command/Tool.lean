import GridAsm.Command.Arguments
import GridAsm.Files.Tree

/-!
# Tools

The two commands, as their arguments see them: the assembler and the inspector of rule tables.  A
call of a tool asks for its help or its version, or is an invocation with all its parameters.
-/

namespace GridAsm.Command

open Text

/-- The commands. -/
inductive Tool where
  /-- Assembles a source. -/
  | assembler
  /-- Shows the rules of a table. -/
  | inspector
  deriving DecidableEq, Repr

namespace Tool

/-- The name of the command. -/
def program : Tool → String
  | .assembler => "tabasm"
  | .inspector => "tabrules"

/-- The version line of the command. -/
def versionText (t : Tool) : String :=
  t.program ++ ", version 1.0.0"

/-- The positional argument in the usage line. -/
def argumentName : Tool → String
  | .assembler => "[SOURCE]"
  | .inspector => "RULES_FILE"

/-- The usage line. -/
def usage (t : Tool) : String :=
  "Usage: " ++ t.program ++ " [OPTIONS] " ++ t.argumentName

/-- The options. -/
def options : Tool → List OptionSpec
  | .assembler =>
    [⟨some 'r', "--rules", true⟩, ⟨some 'o', "--output", true⟩, ⟨some 'l', "--listing", true⟩,
     ⟨none, "--no-artifact", false⟩, ⟨some 'q', "--quiet", false⟩, ⟨some 'v', "--verbose", false⟩,
     ⟨none, "--version", false⟩, ⟨none, "--help", false⟩]
  | .inspector =>
    [⟨some 'm', "--mnemonic", true⟩, ⟨none, "--version", false⟩, ⟨none, "--help", false⟩]

/-- The help below the usage line. -/
def helpLines : Tool → List String
  | .assembler =>
    ["",
     "  Assemble SOURCE into 16-bit instruction words.",
     "",
     "  SOURCE is the assembly file to assemble (default: default.asm).",
     "",
     "  Examples:",
     "      tabasm prog.asm -r rules.json        # Writes MachineCodeHex.txt",
     "      tabasm prog.asm -o prog.hex          # Specify artifact file",
     "      tabasm prog.asm -l prog.lst -q       # Listing to file only",
     "",
     "Options:",
     "  -r, --rules FILE    Rule table (.json, .csv or .tsv). Default: rules.json or",
     "                      $TABASM_RULES",
     "  -o, --output FILE   Hex artifact file (default: MachineCodeHex.txt next to the",
     "                      source)",
     "  -l, --listing FILE  Write the per-line listing to a file",
     "  --no-artifact       Do not write the hex artifact",
     "  -q, --quiet         Do not print the per-line listing",
     "  -v, --verbose       Verbose output",
     "  --version           Show the version and exit.",
     "  --help              Show this message and exit."]
  | .inspector =>
    ["",
     "  Show the compiled layout of every rule in RULES_FILE.",
     "",
     "Options:",
     "  -m, --mnemonic TEXT  Show only this mnemonic",
     "  --version            Show the version and exit.",
     "  --help               Show this message and exit."]

/-- The help text. -/
def helpText (t : Tool) : String :=
  "\n".intercalate (t.usage :: t.helpLines)

/-- The lines that report a usage error; `shown` is what the error output makes of a line. -/
def usageReport (t : Tool) (shown : Text → String) (e : UsageError) : List String :=
  let error := shown ("Error: " ++ e.message)
  if e.showsUsage then
    [t.usage, "Try '" ++ t.program ++ " --help' for help.", "", error]
  else [error]

end Tool

/-- What the assembler is asked to do. -/
structure Assembly where
  /-- The source, if one is given. -/
  source : Option Path := none
  /-- The rule table, if one is given. -/
  rules : Option Path := none
  /-- The artifact, if one is given. -/
  output : Option Path := none
  /-- The listing file, if one is wanted. -/
  listing : Option Path := none
  /-- Whether no artifact is wanted. -/
  noArtifact : Bool := false
  /-- Whether the listing is not printed. -/
  quiet : Bool := false
  /-- Whether every notice is printed. -/
  verbose : Bool := false
  deriving DecidableEq, Repr

/-- What the inspector is asked to do. -/
structure Inspection where
  /-- The rule table. -/
  rules : Path
  /-- The mnemonic to show, if it is only one. -/
  mnemonic : Option Text := none
  deriving DecidableEq, Repr

/-- A call of a tool. -/
inductive Call (α : Type) where
  /-- The help is asked for. -/
  | help
  /-- The version is asked for. -/
  | version
  /-- The tool is asked to do its work. -/
  | run (invocation : α)
  deriving DecidableEq, Repr

/-- The call that help or version ask for: the first of them counts. -/
def eagerCall? {α : Type} (a : Arguments) : Option (Call α) :=
  a.options.findSome? fun g =>
    if g.long = "--help" then some .help else if g.long = "--version" then some .version else none

/-- Why a tool does not start its work. -/
inductive Refusal where
  /-- The arguments are not accepted. -/
  | usage (error : UsageError)
  /-- A value is no path at all, so that it cannot even be looked up. -/
  | noPath (value : Text)
  deriving DecidableEq, Repr

/-- Whether a value, as it is written, leads to a directory. -/
def leadsToDirectory (files : FileTree) (value : Text) : Bool :=
  value ≠ "" && (nameBytes value).length < FileTree.maxPath && files.isDirectory (.parse value)

/-- A path that must not be a directory.  `parameter` is how the parameter is named in messages. -/
def filePath (files : FileTree) (parameter : String) (value : Text) : Except Refusal Path :=
  if (nameFault? value).isSome || value.contains '\x00' then .error (.noPath value)
  else if leadsToDirectory files value then
    let shown := quoted (nameShown value)
    .error (.usage (.invalidValue parameter ("File " ++ shown ++ " is a directory.")))
  else .ok (.parse value)

/-- The names of the options that take a file, as they stand in messages. -/
def fileOptions : List (String × String) :=
  [("--rules", "'-r' / '--rules'"), ("--output", "'-o' / '--output'"),
   ("--listing", "'-l' / '--listing'")]

/-- Checks the values of the options that take a file, in the order in which they were given. -/
def checkFileOptions (files : FileTree) (a : Arguments) : Except Refusal Unit :=
  a.options.forM fun g =>
    match fileOptions.lookup g.long, a.value? g.long with
    | some parameter, some value => (fun _ => ()) <$> filePath files parameter value
    | _, _ => .ok ()

/-- The assembler's arguments. -/
def parseAssembly (files : FileTree) (arguments : List Text) :
    Except Refusal (Call Assembly) := do
  let a ← (sortArguments Tool.assembler.options arguments).mapError .usage
  match eagerCall? a with
  | some call => return call
  | none =>
    checkFileOptions files a
    let source ← a.positional.head?.mapM (filePath files "'[SOURCE]'")
    if 1 < a.positional.length then throw (.usage (.extraArguments (a.positional.drop 1)))
    return .run
      { source := source
        rules := (a.value? "--rules").map .parse
        output := (a.value? "--output").map .parse
        listing := (a.value? "--listing").map .parse
        noArtifact := a.has "--no-artifact"
        quiet := a.has "--quiet"
        verbose := a.has "--verbose" }

/-- The inspector's arguments. -/
def parseInspection (files : FileTree) (arguments : List Text) :
    Except Refusal (Call Inspection) := do
  let a ← (sortArguments Tool.inspector.options arguments).mapError .usage
  match eagerCall? a with
  | some call => return call
  | none =>
    match a.positional with
    | [] => throw (.usage (.missingArgument "RULES_FILE"))
    | value :: extra =>
      let rules ← filePath files "'RULES_FILE'" value
      if !extra.isEmpty then throw (.usage (.extraArguments extra))
      return .run ⟨rules, a.value? "--mnemonic"⟩

end GridAsm.Command
