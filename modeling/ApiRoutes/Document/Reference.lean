import ApiRoutes.Data.Entries
import ApiRoutes.Text.Basic

/-!
# References

A document may put a reference in the place of a schema, parameter, body, response or header. A
reference names a section of the document's components and an entry of it; older documents use roots
of their own for three of the sections (`splitReference`). An entry may be a reference again, so a
reference is the start of a chain of links; `follow` goes along it to the first entry that is none.
-/

namespace ApiRoutes

/-- A reference, or the thing itself. -/
inductive OrRef (α : Type) where
  | ref (path : String)
  | inline (value : α)
  deriving Inhabited

namespace OrRef

variable {α : Type}

def path? : OrRef α → Option String
  | ref path => some path
  | inline _ => none

def value? : OrRef α → Option α
  | ref _ => none
  | inline value => some value

end OrRef

/-- Why a reference leads nowhere. -/
inductive ReferenceError where
  /-- The chain of links comes back to where it was. -/
  | circular (path : String)
  /-- The text is no reference. -/
  | malformed (path : String)
  /-- The reference points into another section. -/
  | wrongSection (expected actual path : String)
  /-- The section has no such entry. -/
  | notFound (path : String)
  deriving DecidableEq, Repr, Inhabited

def ReferenceError.message : ReferenceError → String
  | .circular path => "circular reference detected: " ++ path
  | .malformed path => "invalid reference format: " ++ path
  | .wrongSection expected actual path =>
    "invalid reference format: expected section '" ++ expected ++ "', got '" ++ actual ++ "' in " ++
      path
  | .notFound path => "reference target not found: " ++ path

/-- The roots of older documents, each with the section it stands for. -/
def olderRoots : List (String × String) :=
  [("#/definitions/", "schemas"), ("#/parameters/", "parameters"), ("#/responses/", "responses")]

/-- The section and the name after the first older root that the path begins with. -/
def splitOlder? (path : String) : List (String × String) → Option (String × List Char)
  | [] => none
  | (root, sectionName) :: roots =>
    match Text.dropStart? root.toList path.toList with
    | some name => some (sectionName, name)
    | none => splitOlder? path roots

/-- The section and the entry that a reference names. After an older root the name has no slash;
after `#/components/` the section ends at the first slash. -/
def splitReference (path : String) : Except ReferenceError (String × String) :=
  match splitOlder? path olderRoots with
  | some (sectionName, name) =>
    if name.isEmpty || name.contains '/' then .error (.malformed path)
    else .ok (sectionName, String.ofList name)
  | none =>
    match (Text.dropStart? "#/components/".toList path.toList).bind (Text.cut? ['/']) with
    | some (sectionName, name) =>
      if sectionName.isEmpty || name.isEmpty then .error (.malformed path)
      else .ok (String.ofList sectionName, String.ofList name)
    | none => .error (.malformed path)

/-- The entry of a given section that a reference names. -/
def referenceName (path expected : String) : Except ReferenceError String := do
  let (sectionName, name) ← splitReference path
  if sectionName = expected then return name else throw (.wrongSection expected sectionName path)

/-- The part of a path after its last slash. -/
def lastSegment (path : String) : String :=
  String.ofList ((path.toList.reverse.takeWhile (· ≠ '/')).reverse)

section

variable {α : Type}

/-- The entry that a reference names in a section. -/
def linked (sectionName : String) (table : Entries (OrRef α)) (path : String) :
    Except ReferenceError (OrRef α) := do
  let name ← referenceName path sectionName
  match table.find? name with
  | some entry => return entry
  | none => throw (.notFound path)

/-- Goes along at most `links` links of the chain that began at `start`. -/
def followLinks (sectionName : String) (table : Entries (OrRef α)) (start : String) :
    (links : Nat) → String → Except ReferenceError α
  | 0, _ => .error (.circular start)
  | links + 1, path =>
    match linked sectionName table path with
    | .error e => .error e
    | .ok (.inline value) => .ok value
    | .ok (.ref next) => followLinks sectionName table start links next

/-- The value at the end of a reference's chain. A chain with more links than the section has entries
comes back to a reference it has passed. -/
def follow (sectionName : String) (table : Entries (OrRef α)) (path : String) :
    Except ReferenceError α :=
  followLinks sectionName table path (table.length + 2) path

end

end ApiRoutes
