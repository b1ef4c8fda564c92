import GridAsm.Text.Basic

/-!
# Notices

What the assembler reports beside its results.  A `Logged` computation returns a value and the
notices it left on the way, in order; an `Attempt` may also stop with a fault, and keeps the notices
that came before it.
-/

namespace GridAsm

open Text

/-- How much a notice matters. -/
inductive Severity where
  | debug
  | info
  | warning
  deriving DecidableEq, Repr

/-- The name of a severity as it stands before a notice. -/
def Severity.name : Severity → String
  | .debug => "DEBUG"
  | .info => "INFO"
  | .warning => "WARNING"

/-- An event that is worth a line in the log. -/
inductive Notice where
  /-- A register slice is wider than the bits that are left for it. -/
  | sliceClamped (cell : Text) (bit width : Nat)
  /-- The operand text of a rule has none of the known shapes. -/
  | unknownShape (mnemonic operands : Text)
  /-- All rows of a table have been read. -/
  | rulesRead (count : Nat)
  /-- A rule is shadowed by an earlier one. -/
  | duplicateRule (mnemonic : Text)
  /-- A table has been loaded from a file. -/
  | tableLoaded (path : Text) (count : Nat)
  /-- The assembler has been given another table. -/
  | tableReplaced (count : Nat)
  /-- A label is defined again. -/
  | labelRedefined (name : Text) (address kept : Int)
  /-- A condition is none of the known ones. -/
  | unknownCondition (token : Text)
  /-- A line cannot be encoded. -/
  | lineFailed (number : Nat) (message : Text)
  /-- A source has been assembled. -/
  | assembled (filename : Text) (words errors labels : Nat)
  /-- A program has no words to write. -/
  | nothingToWrite
  /-- The words of a program have been written to a file. -/
  | artifactWritten (count : Nat) (path : Text)
  deriving DecidableEq, Repr

/-- How much the notice matters. -/
def Notice.severity : Notice → Severity
  | .sliceClamped .. | .duplicateRule .. | .unknownCondition .. => .warning
  | .tableLoaded .. | .nothingToWrite | .artifactWritten .. => .info
  | .unknownShape .. | .rulesRead .. | .tableReplaced .. | .labelRedefined .. | .lineFailed ..
  | .assembled .. => .debug

/-- The text of the notice. -/
def Notice.text : Notice → Text
  | .sliceClamped cell bit width =>
    "Register slice '" ++ cell ++ "' at bit " ++ decimal bit ++ " is " ++ decimal width ++
      " bits wide; clamped to " ++ decimal (bit + 1)
  | .unknownShape mnemonic operands =>
    "Rule '" ++ mnemonic ++ "' has unsupported operand pattern '" ++ operands ++ "'"
  | .rulesRead count => "Compiled " ++ decimal count ++ " rules"
  | .duplicateRule mnemonic =>
    "Duplicate rule for '" ++ mnemonic ++ "' ignored (first definition wins)"
  | .tableLoaded path count => "Loaded " ++ path ++ " (" ++ decimal count ++ " rules)"
  | .tableReplaced count => "Rule table replaced (" ++ decimal count ++ " rules)"
  | .labelRedefined name address kept =>
    "Label '" ++ name ++ "' redefined at pc " ++ decimal address ++ "; keeping " ++ decimal kept
  | .unknownCondition token => "Unknown condition '" ++ token ++ "', using AL (0)"
  | .lineFailed number message => "Line " ++ decimal number ++ " failed: " ++ message
  | .assembled filename words errors labels =>
    "Assembled " ++ filename ++ ": " ++ decimal words ++ " words, " ++ decimal errors ++
      " errors, " ++ decimal labels ++ " labels"
  | .nothingToWrite => "No instructions encoded; artifact not written"
  | .artifactWritten count path => "Wrote " ++ decimal count ++ " words to " ++ path

/-- Whether the notice is a warning. -/
def Notice.isWarning (n : Notice) : Bool :=
  n.severity = .warning

/-! ### Computations that leave notices -/

/-- A value and the notices that were left while it was computed. -/
structure Logged (α : Type) where
  /-- The value. -/
  value : α
  /-- The notices, in the order in which they were left. -/
  notices : List Notice := []

namespace Logged

/-- A value without notices. -/
protected def pure {α : Type} (a : α) : Logged α :=
  ⟨a, []⟩

/-- The second computation on the value of the first, with the notices of both. -/
protected def bind {α β : Type} (x : Logged α) (f : α → Logged β) : Logged β :=
  let y := f x.value
  ⟨y.value, x.notices ++ y.notices⟩

instance : Monad Logged where
  pure := Logged.pure
  bind := Logged.bind

/-- Leaves one notice. -/
def note (n : Notice) : Logged Unit :=
  ⟨(), [n]⟩

/-- The warnings among the notices. -/
def warnings {α : Type} (x : Logged α) : List Notice :=
  x.notices.filter Notice.isWarning

@[simp] theorem value_pure {α : Type} (a : α) : (pure a : Logged α).value = a := rfl

@[simp] theorem notices_pure {α : Type} (a : α) : (pure a : Logged α).notices = [] := rfl

@[simp] theorem value_bind {α β : Type} (x : Logged α) (f : α → Logged β) :
    (x >>= f).value = (f x.value).value := rfl

@[simp] theorem notices_bind {α β : Type} (x : Logged α) (f : α → Logged β) :
    (x >>= f).notices = x.notices ++ (f x.value).notices := rfl

@[simp] theorem value_map {α β : Type} (f : α → β) (x : Logged α) :
    (f <$> x).value = f x.value := rfl

@[simp] theorem notices_map {α β : Type} (f : α → β) (x : Logged α) :
    (f <$> x).notices = x.notices :=
  List.append_nil x.notices

@[simp] theorem value_note (n : Notice) : (note n).value = () := rfl

@[simp] theorem notices_note (n : Notice) : (note n).notices = [n] := rfl

/-- Two logged values are the same if their values and their notices are. -/
theorem ext {α : Type} {x y : Logged α} (hv : x.value = y.value)
    (hn : x.notices = y.notices) : x = y := by
  cases x; cases y; simp_all

instance : LawfulMonad Logged :=
  LawfulMonad.mk' Logged (fun _ => ext rfl (List.append_nil _))
    (fun _ _ => ext rfl (List.nil_append _)) (fun _ _ _ => ext rfl (List.append_assoc _ _ _))

end Logged

/-- A computation that leaves notices and may stop with a fault. -/
abbrev Attempt (ε α : Type) : Type :=
  ExceptT ε Logged α

namespace Attempt

/-- Leaves one notice. -/
def note {ε : Type} (n : Notice) : Attempt ε Unit :=
  liftM (Logged.note n)

/-- The same attempt with its fault carried into another type. -/
def mapFault {ε ε' α : Type} (f : ε → ε') (x : Attempt ε α) : Attempt ε' α :=
  ExceptT.adapt f x

end Attempt

end GridAsm
