import GridAsm.Text.Basic

/-!
# Label tables

The addresses of labels by name, in the order in which the names were first given.
-/

namespace GridAsm

/-- Names with their addresses. -/
structure LabelTable where
  /-- The names in order, each with its address. -/
  entries : List (Text × Int) := []
  deriving DecidableEq, Repr

namespace LabelTable

/-- The address of a name. -/
def find? (t : LabelTable) (name : Text) : Option Int :=
  t.entries.lookup name

/-- The names, in order. -/
def names (t : LabelTable) : List Text :=
  t.entries.map Prod.fst

/-- The table with one name more; a name that is there keeps its address. -/
def define (t : LabelTable) (name : Text) (address : Int) : LabelTable :=
  match t.find? name with
  | some _ => t
  | none => ⟨t.entries ++ [(name, address)]⟩

/-- The entries with an address for a name, in the place of the name if it is there. -/
def assignIn (name : Text) (address : Int) : List (Text × Int) → List (Text × Int)
  | [] => [(name, address)]
  | (n, a) :: rest =>
    if n = name then (n, address) :: rest else (n, a) :: assignIn name address rest

/-- The table of pairs; the last address given to a name counts. -/
def ofPairs (pairs : List (Text × Int)) : LabelTable :=
  ⟨pairs.foldl (fun entries (name, address) => assignIn name address entries) []⟩

end LabelTable

end GridAsm
