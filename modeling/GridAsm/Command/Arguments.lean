import GridAsm.Text.Quoted
import GridAsm.Text.Similar
import GridAsm.Text.Split

/-!
# Command-line arguments

Arguments are options and positional arguments in any order.  A long option takes its value after
an equals sign or as the next argument; short options may be grouped, and the rest of a group or
the next argument is the value of the one that takes a value.  After `--` all arguments are
positional.
-/

namespace GridAsm.Command

open Text

/-- An option. -/
structure OptionSpec where
  /-- The letter of the short form. -/
  short : Option Char
  /-- The long form, with its dashes. -/
  long : String
  /-- Whether the option takes a value. -/
  takesValue : Bool
  deriving DecidableEq, Repr

/-- Why arguments are not accepted. -/
inductive UsageError where
  /-- There is no such option; `similar` holds the long options that come close to it. -/
  | noSuchOption (name : Text) (similar : List Text)
  /-- The value of an option is missing. -/
  | missingValue (name : Text)
  /-- An option got a value that it does not take. -/
  | unexpectedValue (name : Text)
  /-- There are too many positional arguments. -/
  | extraArguments (arguments : List Text)
  /-- A positional argument is missing. -/
  | missingArgument (name : Text)
  /-- The value of a parameter is not allowed. -/
  | invalidValue (parameter reason : Text)
  deriving DecidableEq, Repr

namespace UsageError

/-- The wording of the error. -/
def message : UsageError → Text
  | .noSuchOption name [] => "No such option: " ++ name
  | .noSuchOption name [other] => "No such option: " ++ name ++ " Did you mean " ++ other ++ "?"
  | .noSuchOption name similar =>
    "No such option: " ++ name ++ " (Possible options: " ++
      Text.join ", " (similar.mergeSort precedesOrEq) ++ ")"
  | .missingValue name => "Option " ++ quoted name ++ " requires an argument."
  | .unexpectedValue name => "Option " ++ quoted name ++ " does not take a value."
  | .extraArguments arguments =>
    "Got unexpected extra argument" ++ (if arguments.length = 1 then "" else "s") ++ " (" ++
      Text.join " " arguments ++ ")"
  | .missingArgument name => "Missing argument '" ++ name ++ "'."
  | .invalidValue parameter reason => "Invalid value for " ++ parameter ++ ": " ++ reason

/-- Whether the usage of the command is shown before the error. -/
def showsUsage : UsageError → Bool
  | .missingValue _ | .unexpectedValue _ => false
  | _ => true

end UsageError

/-- An option as it was given: its long form, and its value if it takes one. -/
structure Given where
  /-- The long form. -/
  long : String
  /-- The value; empty for an option without one. -/
  value : Text := ""
  deriving DecidableEq, Repr

/-- Arguments after they have been sorted. -/
structure Arguments where
  /-- The options, in order. -/
  options : List Given := []
  /-- The positional arguments, in order. -/
  positional : List Text := []
  deriving DecidableEq, Repr

namespace Arguments

/-- The value of an option: the last one counts. -/
def value? (a : Arguments) (long : String) : Option Text :=
  (a.options.reverse.find? (·.long = long)).map Given.value

/-- Whether an option was given. -/
def has (a : Arguments) (long : String) : Bool :=
  a.options.any (·.long = long)

/-- The arguments with options before them. -/
def withOptions (given : List Given) (a : Arguments) : Arguments :=
  { a with options := given ++ a.options }

end Arguments

/-- What one argument gives: options, and possibly one more whose value is the next argument and
which was written as `shown`. -/
structure Step where
  /-- The options that are complete. -/
  given : List Given
  /-- The long form and the written form of the option that waits for its value. -/
  pending : Option (String × Text) := none

/-- Reads a group of short options. -/
def readGroup (specs : List OptionSpec) (given : List Given) : Text → Except UsageError Step
  | [] => .ok ⟨given, none⟩
  | c :: rest =>
    let shown : Text := ['-', c]
    match specs.find? (fun spec => spec.short.map .char = some c) with
    | none => .error (.noSuchOption shown [])
    | some spec =>
      if spec.takesValue then
        if rest.isEmpty then .ok ⟨given, some (spec.long, shown)⟩
        else .ok ⟨given ++ [⟨spec.long, rest⟩], none⟩
      else readGroup specs (given ++ [⟨spec.long, ""⟩]) rest

/-- The name of a long option and the value after the first equals sign, if there is one. -/
def splitValue (cs : Text) : Text × Option Text :=
  match cs.dropWhile (· ≠ .char '=') with
  | [] => (cs, none)
  | _ :: value => (cs.takeWhile (· ≠ .char '='), some value)

/-- Reads an argument that starts with a dash and is longer. -/
def readOption (specs : List OptionSpec) (cs : Text) : Except UsageError Step :=
  let (name, value) := splitValue cs
  match specs.find? (fun spec => name = spec.long) with
  | some spec =>
    match spec.takesValue, value with
    | true, some v => .ok ⟨[⟨spec.long, v⟩], none⟩
    | true, none => .ok ⟨[], some (spec.long, name)⟩
    | false, some _ => .error (.unexpectedValue name)
    | false, none => .ok ⟨[⟨spec.long, ""⟩], none⟩
  | none =>
    if cs.take 2 = "--" then
      .error (.noSuchOption name (closeMatches name (specs.map fun spec => spec.long)))
    else readGroup specs [] (cs.drop 1)

/-- Whether an argument is an option or a group of options. -/
def isOption (argument : Text) : Bool :=
  match argument with
  | .char '-' :: _ :: _ => true
  | _ => false

/-- Sorts arguments into options and positional arguments. -/
def sortArguments (specs : List OptionSpec) : List Text → Except UsageError Arguments
  | [] => .ok {}
  | argument :: rest =>
    if argument = "--" then .ok ⟨[], rest⟩
    else if isOption argument then do
      let step ← readOption specs argument
      match step.pending, rest with
      | none, rest => return (← sortArguments specs rest).withOptions step.given
      | some (_, shown), [] => throw (.missingValue shown)
      | some (long, _), value :: rest =>
        return (← sortArguments specs rest).withOptions (step.given ++ [⟨long, value⟩])
    else do
      let sorted ← sortArguments specs rest
      return { sorted with positional := argument :: sorted.positional }

end GridAsm.Command
