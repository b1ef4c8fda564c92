import GridAsm.Files.Name
import GridAsm.Files.Path
import GridAsm.Text.Blank
import GridAsm.Text.Lower

/-!
# Settings

The files that a command uses unless it is told otherwise.  Variables of the environment change
them; an empty variable counts as none.
-/

namespace GridAsm

open Text

/-- Default files, and whether an artifact is written. -/
structure Settings where
  /-- The rule table. -/
  rules : Path := .parse "rules.json"
  /-- The source. -/
  source : Path := .parse "default.asm"
  /-- The name of the artifact. -/
  artifactName : Text := "MachineCodeHex.txt"
  /-- Whether an artifact is written. -/
  writesArtifact : Bool := true
  deriving DecidableEq, Repr

/-- The variables of the environment, by name. -/
abbrev Environment : Type :=
  List (String × Text)

namespace Environment

/-- The variables that settings are read from, in the order in which they are set. -/
def settingNames : List String :=
  ["TABASM_RULES", "TABASM_SOURCE", "TABASM_ARTIFACT", "TABASM_NO_ARTIFACT"]

/-- Why a variable cannot be set. -/
inductive Fault where
  /-- The value has no bytes. -/
  | unencodable (fault : EncodeFault)
  /-- A value cannot hold a character of code zero. -/
  | nullInValue
  deriving DecidableEq, Repr

/-- The wording of the fault. -/
def Fault.message : Fault → String
  | .unencodable fault => fault.message
  | .nullInValue => "embedded null byte"

/-- A value as it can be kept: by its bytes. -/
def kept (value : Text) : Except Fault Text :=
  match nameFault? value with
  | some fault => .error (.unencodable fault)
  | none => if value.contains '\x00' then .error .nullInValue else .ok (nameRead value)

/-- The environment with a variable set, or removed. -/
def assign (env : Environment) (name : String) (value : Option Text) :
    Except Fault Environment :=
  let others := env.filter fun (n, _) => n ≠ name
  match value with
  | none => .ok others
  | some v => (kept v).map fun v => (name, v) :: others

/-- The value of a variable that is set and not empty. -/
def value? (env : Environment) (name : String) : Option Text :=
  (env.lookup name).filter (!·.isEmpty)

end Environment

namespace Settings

/-- The values of a variable that mean yes. -/
def yesWords : List Text :=
  ["1", "true", "yes", "on"]

/-- Whether the value of a variable means yes. -/
def meansYes (value : Text) : Bool :=
  lower (trim value) ∈ yesWords

/-- The settings of an environment. -/
def ofEnvironment (env : Environment) : Settings :=
  let standard : Settings := {}
  { rules := ((env.value? "TABASM_RULES").map Path.parse).getD standard.rules
    source := ((env.value? "TABASM_SOURCE").map Path.parse).getD standard.source
    artifactName := (env.value? "TABASM_ARTIFACT").getD standard.artifactName
    writesArtifact := ((env.value? "TABASM_NO_ARTIFACT").map (!meansYes ·)).getD true }

/-- The place of the artifact of a source: beside it. -/
def artifactFor (s : Settings) (source : Path) : Path :=
  source.parent.join (Path.parse s.artifactName)

end Settings

end GridAsm
