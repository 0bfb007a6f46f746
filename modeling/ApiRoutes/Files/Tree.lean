import ApiRoutes.Data.Entries
import ApiRoutes.Text.Basic

/-!
# Trees of files

The folder that a command works in, with the files below it. A place in it is the list of the steps
that lead there; steps above the folder are kept, but nothing is known of what lies there.
-/

namespace ApiRoutes.Files

/-- A place in a tree: the steps from its top. -/
abbrev Place := List String

/-- Why a file cannot be read or written. -/
inductive FileError where
  | notFound
  | notAFolder
  | isAFolder
  deriving DecidableEq, Repr

/-- What the system says about an error. -/
def FileError.message : FileError → String
  | notFound => "No such file or directory (os error 2)"
  | notAFolder => "Not a directory (os error 20)"
  | isAFolder => "Is a directory (os error 21)"

/-- A folder with the files below it. -/
structure Tree where
  files : List (Place × String)
  /-- Folders that need not hold a file. -/
  folders : List Place
  deriving Inhabited

/-- The steps of a name. Those to the same folder are left out; a name that starts with a slash
starts at the root. -/
def steps (name : String) : List String :=
  let root := if name.toList.head? = some '/' then ["/"] else []
  root ++ ((Text.splitBy (· = '/') name.toList).map String.ofList).filter fun step =>
    step ≠ "" && step ≠ "."

/-- The step after the last slash of a name, if it names a file. -/
def fileStep? (name : String) : Option String :=
  let last := (name.toList.reverse.takeWhile (· ≠ '/')).reverse
  if last = [] || last = ['.'] || last = ['.', '.'] || last.contains '\x00' then none
  else some (String.ofList last)

namespace Tree

def ofFiles (files : Entries String) : Tree :=
  ⟨files.map fun (name, text) => (steps name, text), []⟩

def file? (tree : Tree) (place : Place) : Option String := tree.files.lookup place

def isFolder (tree : Tree) (place : Place) : Bool :=
  place.all (fun step => step = ".." || step = "/") || tree.folders.contains place ||
    tree.files.any fun (other, _) => place.isPrefixOf other && place.length < other.length

def above (place : Place) : Place :=
  match place.getLast? with
  | none => [".."]
  | some ".." => place ++ [".."]
  | some "/" => place
  | some _ => place.dropLast

/-- The folder to which steps lead from a folder. -/
def folder? (tree : Tree) : Place → List String → Except FileError Place
  | place, [] => .ok place
  | place, step :: rest =>
    if step = ".." then folder? tree (above place) rest
    else
      let next := place ++ [step]
      if tree.isFolder next then folder? tree next rest
      else .error (if (tree.file? next).isSome then .notAFolder else .notFound)

def filePlace? (tree : Tree) (name : String) : Except FileError Place :=
  match fileStep? name with
  | none =>
    match tree.folder? [] (steps name) with
    | .ok _ => .error (if name = "" then .notFound else .isAFolder)
    | .error e => .error e
  | some step => do return (← tree.folder? [] (steps name).dropLast) ++ [step]

def has (tree : Tree) (name : String) : Bool :=
  match tree.filePlace? name with
  | .ok place => (tree.file? place).isSome || tree.isFolder place
  | .error e => e = .isAFolder

def read? (tree : Tree) (name : String) : Option String :=
  match tree.filePlace? name with
  | .ok place => tree.file? place
  | .error _ => none

/-- The tree with the folders that steps lead through. -/
def addFolders? (tree : Tree) : Place → List String → Option Tree
  | _, [] => some tree
  | place, step :: rest =>
    if step = ".." then addFolders? tree (above place) rest
    else
      let next := place ++ [step]
      if tree.isFolder next then addFolders? tree next rest
      else if (tree.file? next).isSome || step.toList.contains '\x00' then none
      else addFolders? { tree with folders := next :: tree.folders } next rest

def write (tree : Tree) (name text : String) : Except FileError Tree := do
  let place ← tree.filePlace? name
  if tree.isFolder place then .error .isAFolder
  else return { tree with files := (place, text) :: tree.files.filter (·.1 ≠ place) }

/-- The files that are new or other than in an earlier tree, by name; those above the folder are left
out. -/
def changes (tree earlier : Tree) : Entries String :=
  (tree.files.filter fun (place, text) =>
    !place.any (fun step => step = ".." || step = "/") && earlier.file? place ≠ some text).map
      fun (place, text) => (Text.joinWith "/" place, text)

end Tree

end ApiRoutes.Files
