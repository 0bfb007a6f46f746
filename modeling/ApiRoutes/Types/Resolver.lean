import ApiRoutes.Document.Basic
import ApiRoutes.Log
import ApiRoutes.Naming.Casings
import ApiRoutes.Types.Tree

/-!
# Resolving references and naming types

A `Resolver` knows a document's components and the affixes of type names. It says what a reference
points at, what the type expression of a schema is, and which fields an object-like schema has.
-/

namespace ApiRoutes

/-- What stands before and after every type name. -/
structure Affixes where
  before : String := ""
  after : String := ""
  deriving DecidableEq, Repr, Inhabited

def Affixes.typeName (affixes : Affixes) (name : String) : String :=
  affixes.before ++ (Casings.of name).pascal ++ affixes.after

/-- A section of the components; for those of the last kind bodies have no rules of their own. -/
inductive Section where
  | schemas
  | responses
  | requestBodies
  | other (name : String)
  deriving DecidableEq, Repr, Inhabited

namespace Section

def ofName (name : String) : Section :=
  match name with
  | "schemas" => schemas
  | "responses" => responses
  | "requestBodies" => requestBodies
  | _ => other name

def name : Section → String
  | schemas => "schemas"
  | responses => "responses"
  | requestBodies => "requestBodies"
  | other name => name

end Section

/-- What a reference points at. -/
inductive Target where
  | schema (schema : OrRef Schema)
  | response (response : Response)
  | requestBody (body : RequestBody)
  | parameter (param : Parameter)
  | header (header : Header)
  /-- An entry of a section without a model. -/
  | unknown
  deriving Inhabited

structure Resolved where
  /-- The name of the component as the document has it. -/
  name : String
  typeName : String
  category : Section
  target : Target
  deriving Inhabited

/-- The fields of an object-like schema. -/
structure Shape where
  isObject : Bool := false
  allFieldsOptional : Bool := false
  fieldNames : List String := []
  deriving DecidableEq, Repr, Inhabited

/-- A document's components, and how types are named. -/
structure Resolver where
  components : Components
  affixes : Affixes
  deriving Inhabited

namespace Resolver

def ofDocument (doc : Document) (affixes : Affixes) : Resolver := ⟨doc.parts, affixes⟩

def typeName (r : Resolver) (name : String) : String := r.affixes.typeName name

def tree (r : Resolver) (schema : OrRef Schema) : TypeTree := .ofSchemaOrRef r.typeName schema

def typeExpr (r : Resolver) (schema : OrRef Schema) : String := (r.tree schema).render

/-- What an entry of a section leads to. Schemas are taken as they are, other entries at the end of
their chain. -/
def target (r : Resolver) (sectionName name path : String) : Except ReferenceError (Option Target) :=
  match sectionName with
  | "schemas" => .ok ((r.components.schemas.find? name).map .schema)
  | "responses" => (r.components.responseAt path).map fun x => some (.response x)
  | "requestBodies" => (r.components.requestBodyAt path).map fun x => some (.requestBody x)
  | "parameters" => (r.components.parameterAt path).map fun x => some (.parameter x)
  | "headers" => (r.components.headerAt path).map fun x => some (.header x)
  | _ => .ok (some .unknown)

/-- Resolves a reference, or says why it cannot be; a schema that is missing is no error. -/
def lookup (r : Resolver) (path : String) : Except ReferenceError (Option Resolved) := do
  let (sectionName, name) ← splitReference path
  let target ← r.target sectionName name path
  return target.map fun target => ⟨name, r.typeName name, .ofName sectionName, target⟩

/-- What a reference points at, if it can be resolved. -/
def resolve? (r : Resolver) (path : String) : Option Resolved :=
  match r.lookup path with
  | .ok resolved => resolved
  | .error _ => none

def notes (r : Resolver) (path : String) : List Note :=
  match r.lookup path with
  | .ok _ => []
  | .error e => [.debug ("unresolvable reference: " ++ e.message)]

/-! ## Shapes -/

/-- Names of fields in order, and the names that are required. -/
structure Gathered where
  names : List String := []
  required : List String := []

/-- Puts the fields of two schemas together. -/
def Gathered.append (a b : Gathered) : Gathered := ⟨a.names ++ b.names, a.required ++ b.required⟩

mutual

/-- The fields of a schema and of the members of its composition, which come first. `ofReference`
gives the fields behind a reference. -/
def gatherSchema (ofReference : String → Gathered) : Schema → Gathered
  | { allOf, properties, required, .. } =>
    (gatherMembers ofReference allOf).append ⟨properties.map Prod.fst, required⟩

def gatherMembers (ofReference : String → Gathered) : List (OrRef Schema) → Gathered
  | [] => {}
  | .ref path :: rest => (ofReference path).append (gatherMembers ofReference rest)
  | .inline schema :: rest =>
    (gatherSchema ofReference schema).append (gatherMembers ofReference rest)

end

/-- The fields behind a reference, going through at most `jumps` references inside each other. -/
def gatherReference (r : Resolver) : (jumps : Nat) → String → Gathered
  | 0, _ => {}
  | jumps + 1, path =>
    match r.components.schemaAt path with
    | .ok schema => gatherSchema (gatherReference r jumps) schema
    | .error _ => {}

/-- The fields of a schema with its compositions, and whether none of them is required. A composition
that does not lead back to itself goes through each named schema at most once. -/
def shape (r : Resolver) (schema : OrRef Schema) : Shape :=
  let root : Option Schema :=
    match schema with
    | .inline schema => some schema
    | .ref path => (r.components.schemaAt path).toOption
  match root with
  | none => {}
  | some schema =>
    let gathered := gatherSchema (r.gatherReference (r.components.schemas.length + 1)) schema
    let names := Text.distinct gathered.names
    { isObject := !names.isEmpty
      allFieldsOptional := !names.any gathered.required.contains
      fieldNames := names }

end Resolver

end ApiRoutes
