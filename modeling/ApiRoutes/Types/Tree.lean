import ApiRoutes.Document.Schema
import ApiRoutes.Json.Printer
import ApiRoutes.Text.Quoted

/-!
# Type expressions

A schema is turned into a tree of types and the tree into a type expression. References are not
followed: they become names, so that recursive schemas have finite trees.
-/

namespace ApiRoutes

/-- The expression for a type about which nothing is known. -/
def unknownType : String := "unknown"

inductive TypeTree where
  | string
  | stringLiteral (text : String)
  /-- A number or truth value as it is written. -/
  | literal (text : String)
  | number
  | integer
  | boolean
  | null
  | array (items : TypeTree)
  /-- Properties with their types and whether they are required. -/
  | object (fields : List (String × TypeTree × Bool))
  | map (values : TypeTree)
  | named (name : String)
  | union (variants : List TypeTree)
  | intersection (parts : List TypeTree)
  | any
  | dateTime
  | binary
  deriving Inhabited, Repr

namespace TypeTree

/-! ## From schemas -/

/-- The type of one literal value; lists and records have none. -/
def ofLiteral? : Content → Option TypeTree
  | .null => some .null
  | .bool b => some (.literal (if b then "true" else "false"))
  | .number n => some (.literal (JsonText.number n))
  | .text s => some (.stringLiteral s)
  | .list _ => none
  | .record _ => none

/-- The type of a value that is one of several. -/
def ofEnum (values : List Content) : TypeTree :=
  match values.filterMap ofLiteral? with
  | [] => .string
  | [variant] => variant
  | variants => .union variants

def ofConst (value : Content) : TypeTree := (ofLiteral? value).getD .string

/-- Whether it is the type of null alone. -/
def isNull : TypeTree → Bool
  | null => true
  | _ => false

/-- The type with null as one of its variants. -/
def withNull : TypeTree → TypeTree
  | null => null
  | union variants => if variants.any isNull then union variants else union (variants ++ [null])
  | other => union [other, null]

/-- The type of texts with a given format. -/
def ofFormat : Option String → TypeTree
  | some "date-time" => .dateTime
  | some "date" => .dateTime
  | some "binary" => .binary
  | _ => .string

/-- The type for one value of `type`, given those for a list and for an object. -/
def ofType (format : Option String) (array object : TypeTree) : SchemaType → TypeTree
  | .string => ofFormat format
  | .number => .number
  | .integer => .integer
  | .boolean => .boolean
  | .null => .null
  | .array => array
  | .object => object
  | .file => .binary

/-- The type for several values of `type`; null comes last. -/
def ofTypes (format : Option String) (array object : TypeTree) (types : List SchemaType) : TypeTree :=
  let plain := (types.filter (· ≠ .null)).map (ofType format array object)
  match plain ++ (if types.contains .null then [.null] else []) with
  | [] => .any
  | [variant] => variant
  | variants => .union variants

mutual

/-- The type of a schema or of a reference to one; `typeName` makes a type's name from a component's. -/
def ofSchemaOrRef (typeName : String → String) : OrRef Schema → TypeTree
  | .ref path => .named (typeName (lastSegment path))
  | .inline schema => ofSchema typeName schema

/-- The type of a schema. Compositions count before literals, literals before the type, and without a
type its shape tells. -/
def ofSchema (typeName : String → String) : Schema → TypeTree
  | { schemaType, format, nullable, properties, required, additional, items, allOf, oneOf, anyOf,
      enumValues, constValue, .. } =>
    let array := TypeTree.array (ofItems typeName items)
    let object :=
      if properties.isEmpty then ofAdditional typeName additional
      else .object (ofProperties typeName required properties)
    let base :=
      if !oneOf.isEmpty then .union (ofSchemas typeName oneOf)
      else if !anyOf.isEmpty then .union (ofSchemas typeName anyOf)
      else if !allOf.isEmpty then
        let own := if properties.isEmpty then []
          else [.object (ofProperties typeName required properties)]
        match ofMembers typeName allOf ++ own with
        | [part] => part
        | parts => .intersection parts
      else if !enumValues.isEmpty then ofEnum enumValues
      else
        match constValue, schemaType with
        | some value, _ => ofConst value
        | none, some (.single type) => ofType format array object type
        | none, some (.multiple types) => ofTypes format array object types
        | none, none =>
          if !properties.isEmpty || additional.isSome then object
          else if items.isSome then array
          else .any
    if nullable = some true then withNull base else base

def ofOwnProperties (typeName : String → String) : Schema → TypeTree
  | { properties, required, .. } => .object (ofProperties typeName required properties)

def ofSchemas (typeName : String → String) : List (OrRef Schema) → List TypeTree
  | [] => []
  | schema :: rest => ofSchemaOrRef typeName schema :: ofSchemas typeName rest

/-- The types of the members of a composition; of a member with properties only these count. -/
def ofMembers (typeName : String → String) : List (OrRef Schema) → List TypeTree
  | [] => []
  | .ref path :: rest => .named (typeName (lastSegment path)) :: ofMembers typeName rest
  | .inline schema :: rest =>
    (if schema.properties.isEmpty then ofSchema typeName schema else ofOwnProperties typeName schema) ::
      ofMembers typeName rest

def ofProperties (typeName : String → String) (required : List String) :
    List (String × OrRef Schema) → List (String × TypeTree × Bool)
  | [] => []
  | (name, schema) :: rest =>
    (name, ofSchemaOrRef typeName schema, required.contains name) ::
      ofProperties typeName required rest

def ofItems (typeName : String → String) : Option (OrRef Schema) → TypeTree
  | none => .any
  | some schema => ofSchemaOrRef typeName schema

/-- The type of an object without declared properties. -/
def ofAdditional (typeName : String → String) : Option (Additional Schema) → TypeTree
  | some (.schema schema) => .map (ofSchemaOrRef typeName schema)
  | some (.flag true) => .map .any
  | some (.flag false) => .object []
  | none => .object []

end

/-! ## As text -/

/-- Whether a type is put in parentheses before the brackets of an array. -/
def needsParens : TypeTree → Bool
  | union variants => variants.length > 1
  | intersection parts => parts.length > 1
  | _ => false

def isUnion : TypeTree → Bool
  | union _ => true
  | _ => false

def fieldText (name type : String) (required : Bool) : String :=
  Text.propertyKey name ++ (if required then ": " else "?: ") ++ type

mutual

def render : TypeTree → String
  | string => "string"
  | stringLiteral text => Text.quoted text
  | literal text => text
  | number => "number"
  | integer => "number"
  | boolean => "boolean"
  | null => "null"
  | dateTime => "string"
  | binary => "File"
  | any => unknownType
  | named name => name
  | array items => if items.needsParens then "(" ++ items.render ++ ")[]" else items.render ++ "[]"
  | map values => "Record<string, " ++ values.render ++ ">"
  | object [] => "Record<string, " ++ unknownType ++ ">"
  | object (field :: fields) =>
    "\x7b " ++ Text.joinWith "; " (renderFields (field :: fields)) ++ " \x7d"
  | union variants => Text.joinDistinct " | " (renderAll variants)
  | intersection parts => Text.joinDistinct " & " (renderParts parts)

def renderAll : List TypeTree → List String
  | [] => []
  | type :: rest => type.render :: renderAll rest

/-- The expressions of an intersection's parts, unions in parentheses. -/
def renderParts : List TypeTree → List String
  | [] => []
  | part :: rest =>
    (if part.isUnion then "(" ++ part.render ++ ")" else part.render) :: renderParts rest

def renderFields : List (String × TypeTree × Bool) → List String
  | [] => []
  | (name, type, required) :: rest => fieldText name type.render required :: renderFields rest

end

end TypeTree

/-- A type expression that also allows null, if `nullable` says so and it does not yet. -/
def decorateNullable (nullable : Bool) (type : String) : String :=
  if !nullable || type = "null" || (Text.dropEnd? " | null".toList type.toList).isSome then type
  else type ++ " | null"

end ApiRoutes
