import GridAsm.Text.Split

/-!
# Paths

A path is an optional root and a list of names.  Empty names and `.` are dropped when a path is
read, and `..` is kept, so that paths are compared and written in one form.
-/

namespace GridAsm

open Text

/-- A path of a file or a directory. -/
structure Path where
  /-- The root: empty for a path from the working directory, else one slash, or two. -/
  root : String := ""
  /-- The names, from the outermost on. -/
  names : List Text := []
  deriving DecidableEq, Repr

namespace Path

/-- The root of a path as it is written: two slashes at its start are kept, and any other number of
them counts as one. -/
def rootOf (cs : Text) : String :=
  match (cs.takeWhile (· = .char '/')).length with
  | 0 => ""
  | 2 => "//"
  | _ => "/"

/-- Reads a path. -/
def parse (t : Text) : Path :=
  ⟨rootOf t, (splitAt '/' t).filter fun name => name ≠ "" ∧ name ≠ "."⟩

/-- The path as text; the working directory is `.`. -/
def text (p : Path) : Text :=
  if p.root = "" ∧ p.names = [] then "." else p.root ++ Text.join "/" p.names

/-- The directory that holds the file; a path without names is its own. -/
def parent (p : Path) : Path :=
  { p with names := p.names.dropLast }

/-- A path read from a directory on; one with a root replaces the directory. -/
def join (p q : Path) : Path :=
  if q.root = "" then { p with names := p.names ++ q.names } else q

/-- The last name, empty if there is none. -/
def name (p : Path) : Text :=
  p.names.getLast?.getD ""

/-- The last dot of a name and what follows it, unless the dot stands first or last. -/
def suffix (p : Path) : Text :=
  let name := p.name
  let tail := (name.reverse.takeWhile (· ≠ .char '.')).reverse
  let stem := name.length - tail.length - 1
  if name.contains '.' ∧ 0 < stem ∧ tail ≠ [] then '.' :: tail else ""

end Path

end GridAsm
