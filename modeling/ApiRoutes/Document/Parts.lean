import ApiRoutes.Document.Schema

/-!
# Parameters, bodies, responses and headers
-/

namespace ApiRoutes

/-- Where a parameter is sent; a location that is not known is kept as it is written. -/
inductive Location where
  | path
  | query
  | header
  | cookie
  | body
  | formData
  | other (text : String)
  deriving DecidableEq, Repr, Inhabited

namespace Location

def name : Location → String
  | path => "path"
  | query => "query"
  | header => "header"
  | cookie => "cookie"
  | body => "body"
  | formData => "formData"
  | other text => text

def ofName (text : String) : Location :=
  match text with
  | "path" => path
  | "query" => query
  | "header" => header
  | "cookie" => cookie
  | "body" => body
  | "formData" => formData
  | _ => other text

end Location

/-- A parameter. Name and location may be missing: such a parameter is skipped where it is used. -/
structure Parameter where
  name : Option String := none
  location : Option Location := none
  description : Option String := none
  required : Bool := false
  deprecated : Option Bool := none
  schema : Option (OrRef Schema) := none
  style : Option String := none
  explode : Option Bool := none
  exampleValue : Option Content := none
  /-- Schema keywords on the parameter itself, as older documents have them. -/
  schemaType : Option TypeSet := none
  format : Option String := none
  items : Option (OrRef Schema) := none
  enumValues : List Content := []
  defaultValue : Option Content := none
  deriving Inhabited

/-- The schema that the keywords on a parameter itself make up, if there are any. -/
def Parameter.keywordSchema (param : Parameter) : Option Schema :=
  if param.schemaType.isNone && param.format.isNone && param.items.isNone &&
      param.enumValues.isEmpty && param.defaultValue.isNone then none
  else
    some { schemaType := param.schemaType, format := param.format, items := param.items,
           enumValues := param.enumValues, defaultValue := param.defaultValue }

structure Header where
  description : Option String := none
  required : Bool := false
  schema : Option (OrRef Schema) := none
  /-- Schema keywords on the header itself, as older documents have them. -/
  schemaType : Option TypeSet := none
  format : Option String := none
  items : Option (OrRef Schema) := none
  deriving Inhabited

/-- The schema that the keywords on a header itself make up, if it has a type. -/
def Header.keywordSchema (header : Header) : Option Schema :=
  if header.schemaType.isNone then none
  else some { schemaType := header.schemaType, format := header.format, items := header.items }

/-- What a body holds under one media type. -/
structure MediaType where
  schema : Option (OrRef Schema) := none
  exampleValue : Option Content := none
  examples : Entries Content := []
  deriving Inhabited

/-- The first schema among the media types of a body. -/
def firstSchema? (content : Entries MediaType) : Option (OrRef Schema) :=
  content.findSome? fun (_, media) => media.schema

structure RequestBody where
  description : Option String := none
  content : Entries MediaType := []
  /-- A body that does not say so is required. -/
  required : Option Bool := none
  /-- The name that the body's argument should have. -/
  name : Option String := none
  deriving Inhabited

structure Response where
  description : String := ""
  content : Entries MediaType := []
  headers : Entries (OrRef Header) := []
  /-- The schema of the body, in older documents. -/
  schema : Option (OrRef Schema) := none
  deriving Inhabited

end ApiRoutes
