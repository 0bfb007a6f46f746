import ApiRoutes.Types.Resolver

/-!
# Named schemas

The registry of a run holds the schemas that have a name: first the document's own, then the
components that are created from inline schemas. A new component takes the first of its candidate
names whose type name is free.
-/

namespace ApiRoutes

/-- A schema with a name, and the type expression of its content. -/
structure NamedSchema where
  name : String
  typeName : String
  path : String
  content : String
  deriving DecidableEq, Repr, Inhabited

/-- A component made from an inline schema. -/
structure Component where
  typeName : String
  path : String
  category : Section
  schema : OrRef Schema
  deriving Inhabited

/-- The named schemas in order, and the components among them that were created. -/
structure Registry where
  known : List NamedSchema := []
  created : List Component := []
  deriving Inhabited

namespace Registry

def ofResolver (r : Resolver) : Registry :=
  { known := r.components.schemas.map fun (name, schema) =>
      { name, typeName := r.typeName name, path := "#/components/schemas/" ++ name,
        content := r.typeExpr schema } }

def isTaken (registry : Registry) (typeName : String) : Bool :=
  registry.known.any (·.typeName = typeName)

/-- Whether the type name of a component's name is free. -/
def isFree (registry : Registry) (r : Resolver) (name : String) : Bool :=
  !registry.isTaken (r.typeName name)

/-- The first of the names `base`, numbered from `n` on, that is free among `count` of them. -/
def firstFreeNumbered (registry : Registry) (r : Resolver) (base : String) (n : Nat) :
    (count : Nat) → String
  | 0 => base ++ Nat.repr n
  | count + 1 =>
    if registry.isFree r (base ++ Nat.repr n) then base ++ Nat.repr n
    else firstFreeNumbered registry r base (n + 1) count

/-- The name for a new component: the first free candidate, else the first candidate with the least
number from 2 on that makes it free. Of one more number than there are names one is free. -/
def chooseName (registry : Registry) (r : Resolver) (candidates : List String) : String :=
  match candidates.find? (registry.isFree r) with
  | some name => name
  | none =>
    firstFreeNumbered registry r (candidates.head?.getD "Component") 2 (registry.known.length + 1)

def create (registry : Registry) (r : Resolver) (category : Section) (candidates : List String)
    (schema : OrRef Schema) : Component × Registry :=
  let name := registry.chooseName r candidates
  let component : Component :=
    { typeName := r.typeName name, path := "#/components/" ++ category.name ++ "/" ++ name,
      category, schema }
  (component,
    { known := registry.known ++ [
        { name, typeName := component.typeName, path := component.path,
          content := r.typeExpr schema }]
      created := registry.created ++ [component] })

def notes (component : Component) : List Note :=
  [.debug ("created component " ++ component.typeName ++ " (" ++ component.path ++ ")")]

/-- Whether a type expression is more than a name: an object, array, union, intersection or table. -/
def isComposite (type : String) : Bool :=
  type.toList.any ['\x7b', '[', '|', '&', '<'].contains

/-- The named schema that a type expression stands for: one with this type name, or else, if the
expression is composite, one with this content. -/
def findReusable (known : List NamedSchema) (type : String) : Option NamedSchema :=
  match known.find? (·.typeName = type) with
  | some schema => some schema
  | none => if isComposite type then known.find? (·.content = type) else none

end Registry

end ApiRoutes
