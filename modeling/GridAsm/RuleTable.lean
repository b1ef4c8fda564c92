import GridAsm.Rule

/-!
# Rule tables

A table holds the rules of a grid in order.  Where several rows have one mnemonic, the first gives
its rule and the others are kept without effect.
-/

namespace GridAsm

open Text

/-- Rules in the order of their rows. -/
structure RuleTable where
  /-- The rules, shadowed ones included. -/
  rules : List Rule := []
  deriving DecidableEq, Repr

namespace RuleTable

/-- The number of rules. -/
def size (t : RuleTable) : Nat :=
  t.rules.length

/-- The form in which mnemonics are compared. -/
def key (name : Text) : Text :=
  upper (trim name)

/-- The rule of a mnemonic, in letters of any case. -/
def find? (t : RuleTable) (name : Text) : Option Rule :=
  t.rules.find? (·.mnemonic = key name)

/-- The names that are not among `seen`, each at its first place. -/
def distinctFrom (seen : List Text) : List Text → List Text
  | [] => []
  | name :: rest =>
    if name ∈ seen then distinctFrom seen rest else name :: distinctFrom (name :: seen) rest

/-- The mnemonics, each at its first place. -/
def mnemonics (t : RuleTable) : List Text :=
  distinctFrom [] (t.rules.map Rule.mnemonic)

/-- The names that occurred before, at each of their later places. -/
def repeatedFrom (seen : List Text) : List Text → List Text
  | [] => []
  | name :: rest =>
    if name ∈ seen then name :: repeatedFrom seen rest else repeatedFrom (name :: seen) rest

/-- A warning for every rule that is shadowed by an earlier one. -/
def duplicateNotices (t : RuleTable) : List Notice :=
  (repeatedFrom [] (t.rules.map Rule.mnemonic)).map .duplicateRule

/-- The table of rules, with a warning for every shadowed one. -/
def ofRules (rules : List Rule) : Logged RuleTable :=
  let t : RuleTable := ⟨rules⟩
  ⟨t, t.duplicateNotices⟩

/-- The rules of rows, in order. -/
def rulesOfRows : List (List Json.Value) → Attempt NumberFault (List Rule)
  | [] => return []
  | row :: rest => do
    let rule? ← Rule.ofRow? row
    let rules ← rulesOfRows rest
    return rule?.toList ++ rules

/-- The table of a grid, whose first row is a header. -/
def ofGrid (grid : List (List Json.Value)) : Attempt NumberFault RuleTable := do
  let rules ← rulesOfRows (grid.drop 1)
  Attempt.note (.rulesRead rules.length)
  liftM (ofRules rules)

/-- The table in one line. -/
def summary (t : RuleTable) : String :=
  "RuleTable(" ++ decimal t.size ++ " rules)"

end RuleTable

end GridAsm
