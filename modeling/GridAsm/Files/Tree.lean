import GridAsm.Files.Name
import GridAsm.Files.Path
import GridAsm.Text.Digit
import GridAsm.Text.Quoted
import GridAsm.Text.Utf8

/-!
# File trees

The files that a run can see, as a value.  A place is named by its path from the working directory
in a form without detours: some number of `..`, then names; places that are not below the working
directory nor above it start with a slash.  The directories above the working directory exist, and
nothing is known to be in them.

Reading, writing and making directories follow a path name by name, as an operating system does, and
fail with its faults.  Names that stand for the same bytes are one name.
-/

namespace GridAsm

open Text

/-- Why an operation on a file fails. -/
inductive FileProblem where
  | notFound
  | alreadyExists
  | notDirectory
  | isDirectory
  | nameTooLong
  deriving DecidableEq, Repr

/-- The number of the problem. -/
def FileProblem.number : FileProblem → Nat
  | .notFound => 2
  | .alreadyExists => 17
  | .notDirectory => 20
  | .isDirectory => 21
  | .nameTooLong => 36

/-- The wording of the problem. -/
def FileProblem.text : FileProblem → String
  | .notFound => "No such file or directory"
  | .alreadyExists => "File exists"
  | .notDirectory => "Not a directory"
  | .isDirectory => "Is a directory"
  | .nameTooLong => "File name too long"

/-- Why an operation on a path fails. -/
inductive FileFault where
  /-- The operation fails at the path. -/
  | failed (problem : FileProblem) (path : Text)
  /-- A path cannot hold a character of code zero. -/
  | nullInPath
  /-- The text for a file, or that of its path, has no bytes. -/
  | unencodable (fault : EncodeFault)
  deriving DecidableEq, Repr

/-- The wording of the fault. -/
def FileFault.message : FileFault → String
  | .failed problem path =>
    "[Errno " ++ decimal problem.number ++ "] " ++ problem.text ++ ": " ++ quoted path
  | .nullInPath => "embedded null byte"
  | .unencodable fault => fault.message

/-- What is at a place. -/
inductive Entry where
  | directory
  | file (bytes : List UInt8)
  deriving DecidableEq, Repr

/-- A place, as names without detours from the working directory. -/
abbrev Place : Type :=
  List Text

/-- The files and directories by place; each place occurs once. -/
structure FileTree where
  /-- The entries. -/
  entries : List (Place × Entry) := []
  deriving DecidableEq, Repr

namespace FileTree

/-- The name of the directory above. -/
def above : Text := ".."

/-- The root of all places that are named from it. -/
def root : Place := ["/"]

/-- A directory that exists in every tree: the working directory, one above it, or the root. -/
def isFixed (place : Place) : Bool :=
  place.all (· = above) || place = root

/-- What is at a place. -/
def find? (t : FileTree) (place : Place) : Option Entry :=
  if isFixed place then some .directory else t.entries.lookup place

/-- The entries with one of them new or replaced. -/
def putIn (place : Place) (e : Entry) : List (Place × Entry) → List (Place × Entry)
  | [] => [(place, e)]
  | (p, old) :: rest => if p = place then (p, e) :: rest else (p, old) :: putIn place e rest

/-- The tree with something at a place. -/
def put (t : FileTree) (place : Place) (e : Entry) : FileTree :=
  ⟨putIn place e t.entries⟩

/-! ### Following paths -/

/-- Names are at most this long, in bytes. -/
def maxName : Nat := 255

/-- Paths are shorter than this, in bytes. -/
def maxPath : Nat := 4096

/-- The place of a name in a directory. -/
def child (place : Place) (name : Text) : Place :=
  if name = above then
    if place = root then place
    else if place.all (· = above) then place ++ [above]
    else place.dropLast
  else place ++ [name]

/-- The place that names lead to from a place.  All but the last must be directories. -/
def follow (t : FileTree) (place : Place) : List Text → Except FileProblem Place
  | [] => .ok place
  | name :: rest =>
    match t.find? place with
    | some .directory =>
      if maxName < (nameBytes name).length then .error .nameTooLong
      else follow t (child place name) rest
    | some (.file _) => .error .notDirectory
    | none => .error .notFound

/-- The place of a path. -/
def placeOf (t : FileTree) (p : Path) : Except FileFault Place :=
  match nameFault? p.text with
  | some fault => .error (.unencodable fault)
  | none =>
    if p.text.contains '\x00' then .error .nullInPath
    else if maxPath ≤ (nameBytes p.text).length then .error (.failed .nameTooLong p.text)
    else match t.follow (if p.root = "" then [] else root) (p.names.map nameRead) with
      | .ok place => .ok place
      | .error problem => .error (.failed problem p.text)

/-- Whether a path is a directory. -/
def isDirectory (t : FileTree) (p : Path) : Bool :=
  match t.placeOf p with
  | .ok place => t.find? place = some .directory
  | .error _ => false

/-! ### Operations -/

/-- The bytes of a file. -/
def read (t : FileTree) (p : Path) : Except FileFault (List UInt8) := do
  match t.find? (← t.placeOf p) with
  | some (.file bytes) => return bytes
  | some .directory => throw (.failed .isDirectory p.text)
  | none => throw (.failed .notFound p.text)

/-- A change of a tree, which may fail; what was done before the failure stays. -/
abbrev Edit (α : Type) : Type :=
  ExceptT FileFault (StateM FileTree) α

/-- Replaces the bytes of a file, or makes a new file in a directory that exists. -/
def write (p : Path) (bytes : List UInt8) : Edit Unit := do
  let t ← get
  let place ← liftExcept (t.placeOf p)
  if t.find? place = some .directory then throw (.failed .isDirectory p.text)
  set (t.put place (.file bytes))

/-- Makes a directory in a directory that exists. -/
def makeDirectory (p : Path) : Edit Unit := do
  let t ← get
  let place ← liftExcept (t.placeOf p)
  if (t.find? place).isSome then throw (.failed .alreadyExists p.text)
  set (t.put place .directory)

/-- Does nothing if the path is a directory, and fails otherwise. -/
def acceptDirectory (p : Path) (fault : FileFault) : Edit Unit := do
  if !(← get).isDirectory p then throw fault

/-- Makes a directory unless it exists. -/
def ensureDirectory (p : Path) : Edit Unit :=
  tryCatch (makeDirectory p) (acceptDirectory p)

/-- Makes a directory and those above it, `depth` of them at most, unless they exist. -/
def ensureDirectoriesTo (p : Path) : Nat → Edit Unit
  | 0 => ensureDirectory p
  | depth + 1 =>
    tryCatch (makeDirectory p) fun fault =>
      match fault with
      | .failed .notFound _ => do
        ensureDirectoriesTo p.parent depth
        ensureDirectory p
      | _ => acceptDirectory p fault

/-- Makes a directory and all those above it, unless they exist. -/
def ensureDirectories (p : Path) : Edit Unit :=
  ensureDirectoriesTo p p.names.length

/-- Writes a text to a file, whose directory is made if need be.  A text that cannot be written
leaves the file empty. -/
def writeText (p : Path) (text : Text) : Edit Unit := do
  ensureDirectories p.parent
  match text.encoded with
  | .ok s => write p (encodeUtf8 s)
  | .error fault => do
    write p []
    throw (.unencodable fault)

/-- The outcome of a change, and the tree after it. -/
def edit {α : Type} (t : FileTree) (x : Edit α) : Except FileFault α × FileTree :=
  x.run.run t

/-! ### Changes -/

/-- Whether a place is below the working directory. -/
def isBelow (place : Place) : Bool :=
  match place with
  | [] => false
  | name :: _ => name ≠ above ∧ name ≠ "/"

/-- The files below the working directory that are new or have other bytes, by path. -/
def changes (old new : FileTree) : List (Text × List UInt8) :=
  let changed := new.entries.filterMap fun (place, e) =>
    match e with
    | .file bytes =>
      if isBelow place ∧ old.find? place ≠ some e then some (Text.join "/" place, bytes) else none
    | .directory => none
  changed.mergeSort fun a b => a.1.precedesOrEq b.1

end FileTree

end GridAsm
