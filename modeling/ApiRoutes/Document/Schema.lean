import ApiRoutes.Data.Content
import ApiRoutes.Document.Reference

/-!
# Schemas

The part of a schema that type expressions are made from. A place that takes a schema also takes a
reference to one.
-/

namespace ApiRoutes

inductive SchemaType where
  | string
  | number
  | integer
  | boolean
  | array
  | object
  | null
  /-- An upload, in older documents. -/
  | file
  deriving DecidableEq, Repr, Inhabited

/-- A `type` names one type or lists several. -/
inductive TypeSet where
  | single (type : SchemaType)
  | multiple (types : List SchemaType)
  deriving DecidableEq, Repr, Inhabited

/-- How the alternatives of a schema are told apart. -/
structure Discriminator where
  propertyName : String
  mapping : Entries String := []
  deriving DecidableEq, Repr, Inhabited

/-- What `additionalProperties` says: whether there may be any, or their schema. -/
inductive Additional (σ : Type) where
  | flag (allowed : Bool)
  | schema (schema : OrRef σ)

/-- A schema; a keyword that is absent is `none` or empty. -/
structure Schema where
  schemaType : Option TypeSet := none
  format : Option String := none
  title : Option String := none
  description : Option String := none
  defaultValue : Option Content := none
  nullable : Option Bool := none
  properties : List (String × OrRef Schema) := []
  required : List String := []
  additional : Option (Additional Schema) := none
  items : Option (OrRef Schema) := none
  allOf : List (OrRef Schema) := []
  oneOf : List (OrRef Schema) := []
  anyOf : List (OrRef Schema) := []
  discriminator : Option Discriminator := none
  enumValues : List Content := []
  constValue : Option Content := none
  readOnly : Option Bool := none
  writeOnly : Option Bool := none
  exampleValue : Option Content := none
  deriving Inhabited

namespace Schema

def string : Schema := { schemaType := some (.single .string) }

def object (properties : Entries (OrRef Schema)) (required : List String) : Schema :=
  { schemaType := some (.single .object), properties, required }

/-- Whether null is allowed: by `nullable`, or by a null type. -/
def permitsNull (schema : Schema) : Bool :=
  schema.nullable = some true ||
    match schema.schemaType with
    | some (.single type) => type = .null
    | some (.multiple types) => types.contains .null
    | none => false

end Schema

/-- Whether an inline schema allows null; a reference does not say. -/
def OrRef.permitsNull : OrRef Schema → Bool
  | .ref _ => false
  | .inline schema => schema.permitsNull

end ApiRoutes
