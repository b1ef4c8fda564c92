import GridAsm.Binary64.Shortest
import GridAsm.Text.Blank
import GridAsm.Text.Digit
import GridAsm.Text.Quoted

/-!
# Values of a data file

The values that a table file may hold in a cell, and their text.  A number is whole or of binary
floating point, as it was written.  `Value.cellText` is what the table reader sees: texts without
the blanks around them, whole numbers without a point, and other values in the style of
`Value.shown`.
-/

namespace GridAsm.Json

open Text

/-- A value of a data file. -/
inductive Value where
  | null
  | bool (b : Bool)
  | int (n : Int)
  | real (x : Binary64)
  | text (t : Text)
  | list (items : List Value)
  | record (members : List (Text × Value))
  deriving Repr

instance : Inhabited Value := ⟨.null⟩

mutual

/-- A value as it stands inside a list or a record: texts are quoted. -/
def Value.shown : Value → String
  | .null => "None"
  | .bool b => if b then "True" else "False"
  | .int n => decimal n
  | .real x => x.text Binary64.cellStyle
  | .text t => quoted t
  | .list items => "[" ++ ", ".intercalate (shownItems items) ++ "]"
  | .record members => "\x7b" ++ ", ".intercalate (shownMembers members) ++ "\x7d"

/-- The items of a list, shown. -/
def shownItems : List Value → List String
  | [] => []
  | v :: rest => v.shown :: shownItems rest

/-- The members of a record, each with its name. -/
def shownMembers : List (Text × Value) → List String
  | [] => []
  | (name, v) :: rest => (quoted name ++ ": " ++ v.shown) :: shownMembers rest

end

/-- The text of a value that stands by itself, with the blanks around it. -/
def Value.plain : Value → Text
  | .null => ""
  | .text t => t
  | .real x => match x.integer? with
    | some n => decimal n
    | none => x.text Binary64.cellStyle
  | v => v.shown

/-- The text of a cell: without the blanks around it. -/
def Value.cellText (v : Value) : Text :=
  trim v.plain

/-- The value of a record under a name. -/
def Value.member? (name : Text) : Value → Option Value
  | .record members => members.lookup name
  | _ => none

end GridAsm.Json
