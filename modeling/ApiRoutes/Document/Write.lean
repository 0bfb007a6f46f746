import ApiRoutes.Document.Read

/-!
# Writing documents

The serialized form of each model: a record of its fields in order. An optional field without a value
and an empty list or table are left out, but for the few fields that are always there: `required` of
parameters and headers, `content` of request bodies and `description` of responses.
-/

namespace ApiRoutes

open Content (optionalField listField tableField ofFields)

def writeReference (path : String) : Content := ofFields [("$ref", .text path)]

def OrRef.write {α : Type} (write : α → Content) : OrRef α → Content
  | .ref path => writeReference path
  | .inline value => write value

def TypeSet.write : TypeSet → Content
  | .single type => .text type.name
  | .multiple types => .list (types.map fun type => .text type.name)

def Discriminator.write (d : Discriminator) : Content :=
  ofFields ([("propertyName", .text d.propertyName)] ++ tableField "mapping" Content.text d.mapping)

/-- A list that is left out where it is empty. -/
def writtenList (name : String) : List Content → List (String × Content)
  | [] => []
  | items => [(name, .list items)]

/-- A table that is left out where it is empty. -/
def writtenTable (name : String) : List (String × Content) → List (String × Content)
  | [] => []
  | entries => [(name, ofFields entries)]

mutual

def Schema.write : Schema → Content
  | { schemaType, format, title, description, defaultValue, nullable, properties, required, additional,
      items, allOf, oneOf, anyOf, discriminator, enumValues, constValue, readOnly, writeOnly,
      exampleValue } =>
    ofFields (
      optionalField "type" TypeSet.write schemaType ++
      optionalField "format" Content.text format ++
      optionalField "title" Content.text title ++
      optionalField "description" Content.text description ++
      optionalField "default" id defaultValue ++
      optionalField "nullable" Content.bool nullable ++
      writtenTable "properties" (Schema.writeProperties properties) ++
      listField "required" Content.text required ++
      Schema.writeAdditional additional ++
      Schema.writeItems items ++
      writtenList "allOf" (Schema.writeList allOf) ++
      writtenList "oneOf" (Schema.writeList oneOf) ++
      writtenList "anyOf" (Schema.writeList anyOf) ++
      optionalField "discriminator" Discriminator.write discriminator ++
      listField "enum" id enumValues ++
      optionalField "const" id constValue ++
      optionalField "readOnly" Content.bool readOnly ++
      optionalField "writeOnly" Content.bool writeOnly ++
      optionalField "example" id exampleValue)

def Schema.writeOrRef : OrRef Schema → Content
  | .ref path => writeReference path
  | .inline schema => Schema.write schema

def Schema.writeList : List (OrRef Schema) → List Content
  | [] => []
  | schema :: rest => Schema.writeOrRef schema :: Schema.writeList rest

def Schema.writeProperties : List (String × OrRef Schema) → List (String × Content)
  | [] => []
  | (name, schema) :: rest => (name, Schema.writeOrRef schema) :: Schema.writeProperties rest

def Schema.writeItems : Option (OrRef Schema) → List (String × Content)
  | none => []
  | some schema => [("items", Schema.writeOrRef schema)]

def Schema.writeAdditional : Option (Additional Schema) → List (String × Content)
  | none => []
  | some (.flag allowed) => [("additionalProperties", .bool allowed)]
  | some (.schema schema) => [("additionalProperties", Schema.writeOrRef schema)]

end

def Parameter.write (p : Parameter) : Content :=
  ofFields (
    optionalField "name" Content.text p.name ++
    optionalField "in" (fun l => .text l.name) p.location ++
    optionalField "description" Content.text p.description ++
    [("required", .bool p.required)] ++
    optionalField "deprecated" Content.bool p.deprecated ++
    optionalField "schema" Schema.writeOrRef p.schema ++
    optionalField "style" Content.text p.style ++
    optionalField "explode" Content.bool p.explode ++
    optionalField "example" id p.exampleValue ++
    optionalField "type" TypeSet.write p.schemaType ++
    optionalField "format" Content.text p.format ++
    optionalField "items" Schema.writeOrRef p.items ++
    listField "enum" id p.enumValues ++
    optionalField "default" id p.defaultValue)

def Header.write (h : Header) : Content :=
  ofFields (
    optionalField "description" Content.text h.description ++
    [("required", .bool h.required)] ++
    optionalField "schema" Schema.writeOrRef h.schema ++
    optionalField "type" TypeSet.write h.schemaType ++
    optionalField "format" Content.text h.format ++
    optionalField "items" Schema.writeOrRef h.items)

/-- What a body holds under a media type. -/
def MediaType.write (m : MediaType) : Content :=
  ofFields (
    optionalField "schema" Schema.writeOrRef m.schema ++
    optionalField "example" id m.exampleValue ++
    tableField "examples" id m.examples)

def RequestBody.write (b : RequestBody) : Content :=
  ofFields (
    optionalField "description" Content.text b.description ++
    [("content", ofFields (b.content.map fun (k, m) => (k, m.write)))] ++
    optionalField "required" Content.bool b.required ++
    optionalField "x-name" Content.text b.name)

def Response.write (r : Response) : Content :=
  ofFields (
    [("description", .text r.description)] ++
    tableField "content" MediaType.write r.content ++
    tableField "headers" (OrRef.write Header.write) r.headers ++
    optionalField "schema" Schema.writeOrRef r.schema)

def MediaTypeList.write : MediaTypeList → Content
  | .one mediaType => .text mediaType
  | .many mediaTypes => .texts mediaTypes

def SecurityRequirement.write (r : SecurityRequirement) : Content :=
  ofFields (r.map fun (scheme, scopes) => (scheme, .texts scopes))

def Operation.write (op : Operation) : Content :=
  ofFields (
    optionalField "operationId" Content.text op.operationId ++
    optionalField "summary" Content.text op.summary ++
    optionalField "description" Content.text op.description ++
    listField "tags" Content.text op.tags ++
    listField "parameters" (OrRef.write Parameter.write) op.parameters ++
    optionalField "requestBody" (OrRef.write RequestBody.write) op.requestBody ++
    tableField "responses" (OrRef.write Response.write) op.responses ++
    optionalField "deprecated" Content.bool op.deprecated ++
    optionalField "security" (fun rs => .list (rs.map SecurityRequirement.write)) op.security ++
    optionalField "x-codegen-request-body-name" Content.text op.requestBodyName ++
    optionalField "x-accepts" MediaTypeList.write op.accepts ++
    optionalField "x-contentType" MediaTypeList.write op.contentType ++
    optionalField "consumes" Content.texts op.consumes ++
    optionalField "produces" Content.texts op.produces)

end ApiRoutes
