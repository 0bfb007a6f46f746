import ApiRoutes.Data.Source
import ApiRoutes.Document.Basic

/-!
# Reading documents

Each model is read from the fields its list names, in that order where the fields are given as a list.
A field of a list or table that is absent is empty, an optional field may be absent or null, and
fields with other names are skipped.

Documents, paths, operations and components are read from any `Source`; everything in a place where a
reference may stand is read from typed `Content`.
-/

namespace ApiRoutes

/-- A reference: a record with the text of `$ref`, whatever else it holds. -/
def referencePath? (c : Content) : Option String := do
  (← c.recordFields? [⟨"$ref", false⟩]).required "$ref" fun v => v.val.text?

/-- A reference if the data is one, else the thing itself as it was read. -/
def OrRef.choose {α : Type} (c : Content) (inline : Option α) : Option (OrRef α) :=
  match referencePath? c with
  | some path => some (.ref path)
  | none => inline.map .inline

def OrRef.read {α : Type} (read : Content → Option α) (c : Content) : Option (OrRef α) :=
  OrRef.choose c (read c)

namespace SchemaType

def all : List SchemaType := [string, number, integer, boolean, array, object, null, file]

def name : SchemaType → String
  | string => "string"
  | number => "number"
  | integer => "integer"
  | boolean => "boolean"
  | array => "array"
  | object => "object"
  | null => "null"
  | file => "file"

def ofName? (text : String) : Option SchemaType := all.find? (·.name = text)

/-- A type: its name, or a record with its name or number as the only key and nothing under it. -/
def read : Content → Option SchemaType
  | .text s => ofName? s
  | .record [(.name s, .null)] => ofName? s
  | .record [(.index n, .null)] => all[n]?
  | _ => none

end SchemaType

def TypeSet.read (c : Content) : Option TypeSet :=
  match SchemaType.read c with
  | some type => some (.single type)
  | none => (c.items?.bind (·.mapM SchemaType.read)).map .multiple

def Discriminator.fields : List Field := [⟨"propertyName", false⟩, ⟨"mapping", true⟩]

def Discriminator.read (c : Content) : Option Discriminator := do
  let slots ← c.fields? fields
  return {
    propertyName := ← slots.required "propertyName" fun v => v.val.text?
    mapping := ← slots.withDefault "mapping" [] fun v => v.val.tableBelow? fun w => w.val.text? }

def Schema.fields : List Field :=
  [⟨"type", false⟩, ⟨"format", false⟩, ⟨"title", false⟩, ⟨"description", false⟩,
   ⟨"default", false⟩, ⟨"nullable", false⟩, ⟨"properties", true⟩, ⟨"required", true⟩,
   ⟨"additionalProperties", false⟩, ⟨"items", false⟩, ⟨"allOf", true⟩, ⟨"oneOf", true⟩,
   ⟨"anyOf", true⟩, ⟨"discriminator", false⟩, ⟨"enum", true⟩, ⟨"const", false⟩,
   ⟨"readOnly", false⟩, ⟨"writeOnly", false⟩, ⟨"example", false⟩]

def Schema.read (c : Content) : Option Schema := do
  let slots ← c.fields? Schema.fields
  return {
    schemaType := ← slots.optional "type" fun v => TypeSet.read v.val
    format := ← slots.optional "format" fun v => v.val.text?
    title := ← slots.optional "title" fun v => v.val.text?
    description := ← slots.optional "description" fun v => v.val.text?
    defaultValue := ← slots.optional "default" fun v => v.val.freeForm?
    nullable := ← slots.optional "nullable" fun v => v.val.flag?
    properties := ← slots.withDefault "properties" [] fun ⟨v, _⟩ =>
      v.tableBelow? fun ⟨w, _⟩ => OrRef.choose w (Schema.read w)
    required := ← slots.withDefault "required" [] fun v => v.val.texts?
    additional := ← slots.optional "additionalProperties" fun ⟨v, _⟩ =>
      match v.flag? with
      | some allowed => some (.flag allowed)
      | none => (OrRef.choose v (Schema.read v)).map .schema
    items := ← slots.optional "items" fun ⟨v, _⟩ => OrRef.choose v (Schema.read v)
    allOf := ← slots.withDefault "allOf" [] fun ⟨v, _⟩ =>
      v.listBelow? fun ⟨w, _⟩ => OrRef.choose w (Schema.read w)
    oneOf := ← slots.withDefault "oneOf" [] fun ⟨v, _⟩ =>
      v.listBelow? fun ⟨w, _⟩ => OrRef.choose w (Schema.read w)
    anyOf := ← slots.withDefault "anyOf" [] fun ⟨v, _⟩ =>
      v.listBelow? fun ⟨w, _⟩ => OrRef.choose w (Schema.read w)
    discriminator := ← slots.optional "discriminator" fun v => Discriminator.read v.val
    enumValues := ← slots.withDefault "enum" [] fun v =>
      v.val.items?.bind (·.mapM Content.freeForm?)
    constValue := ← slots.optional "const" fun v => v.val.freeForm?
    readOnly := ← slots.optional "readOnly" fun v => v.val.flag?
    writeOnly := ← slots.optional "writeOnly" fun v => v.val.flag?
    exampleValue := ← slots.optional "example" fun v => v.val.freeForm? }
termination_by sizeOf c
decreasing_by all_goals omega

def Schema.readOrRef (c : Content) : Option (OrRef Schema) := OrRef.read Schema.read c

def Parameter.fields : List Field :=
  [⟨"name", false⟩, ⟨"in", false⟩, ⟨"description", false⟩, ⟨"required", true⟩,
   ⟨"deprecated", false⟩, ⟨"schema", false⟩, ⟨"style", false⟩, ⟨"explode", false⟩,
   ⟨"example", false⟩, ⟨"type", false⟩, ⟨"format", false⟩, ⟨"items", false⟩, ⟨"enum", true⟩,
   ⟨"default", false⟩]

def Parameter.read (c : Content) : Option Parameter := do
  let slots ← c.fields? Parameter.fields
  return {
    name := ← slots.optional "name" fun v => v.val.text?
    location := ← slots.optional "in" fun v => v.val.text?.map Location.ofName
    description := ← slots.optional "description" fun v => v.val.text?
    required := ← slots.withDefault "required" false fun v => v.val.flag?
    deprecated := ← slots.optional "deprecated" fun v => v.val.flag?
    schema := ← slots.optional "schema" fun v => Schema.readOrRef v.val
    style := ← slots.optional "style" fun v => v.val.text?
    explode := ← slots.optional "explode" fun v => v.val.flag?
    exampleValue := ← slots.optional "example" fun v => v.val.freeForm?
    schemaType := ← slots.optional "type" fun v => TypeSet.read v.val
    format := ← slots.optional "format" fun v => v.val.text?
    items := ← slots.optional "items" fun v => Schema.readOrRef v.val
    enumValues := ← slots.withDefault "enum" [] fun v =>
      v.val.items?.bind (·.mapM Content.freeForm?)
    defaultValue := ← slots.optional "default" fun v => v.val.freeForm? }

def Header.fields : List Field :=
  [⟨"description", false⟩, ⟨"required", true⟩, ⟨"schema", false⟩, ⟨"type", false⟩,
   ⟨"format", false⟩, ⟨"items", false⟩]

def Header.read (c : Content) : Option Header := do
  let slots ← c.fields? Header.fields
  return {
    description := ← slots.optional "description" fun v => v.val.text?
    required := ← slots.withDefault "required" false fun v => v.val.flag?
    schema := ← slots.optional "schema" fun v => Schema.readOrRef v.val
    schemaType := ← slots.optional "type" fun v => TypeSet.read v.val
    format := ← slots.optional "format" fun v => v.val.text?
    items := ← slots.optional "items" fun v => Schema.readOrRef v.val }

def MediaType.fields : List Field := [⟨"schema", false⟩, ⟨"example", false⟩, ⟨"examples", true⟩]

/-- What a body holds under a media type. -/
def MediaType.read (c : Content) : Option MediaType := do
  let slots ← c.fields? MediaType.fields
  return {
    schema := ← slots.optional "schema" fun v => Schema.readOrRef v.val
    exampleValue := ← slots.optional "example" fun v => v.val.freeForm?
    examples := ← slots.withDefault "examples" [] fun v =>
      v.val.tableBelow? fun w => w.val.freeForm? }

/-- What a body holds, by media type. -/
def MediaType.readTable (c : Content) : Option (Entries MediaType) :=
  c.tableBelow? fun v => MediaType.read v.val

def RequestBody.fields : List Field :=
  [⟨"description", false⟩, ⟨"content", true⟩, ⟨"required", false⟩, ⟨"x-name", false⟩]

def RequestBody.read (c : Content) : Option RequestBody := do
  let slots ← c.fields? RequestBody.fields
  return {
    description := ← slots.optional "description" fun v => v.val.text?
    content := ← slots.withDefault "content" [] fun v => MediaType.readTable v.val
    required := ← slots.optional "required" fun v => v.val.flag?
    name := ← slots.optional "x-name" fun v => v.val.text? }

def Response.fields : List Field :=
  [⟨"description", true⟩, ⟨"content", true⟩, ⟨"headers", true⟩, ⟨"schema", false⟩]

def Response.read (c : Content) : Option Response := do
  let slots ← c.fields? Response.fields
  return {
    description := ← slots.withDefault "description" "" fun v => v.val.text?
    content := ← slots.withDefault "content" [] fun v => MediaType.readTable v.val
    headers := ← slots.withDefault "headers" [] fun v =>
      v.val.tableBelow? fun w => OrRef.read Header.read w.val
    schema := ← slots.optional "schema" fun v => Schema.readOrRef v.val }

def MediaTypeList.read (c : Content) : Option MediaTypeList :=
  match c.text? with
  | some mediaType => some (.one mediaType)
  | none => c.texts?.map .many

/-! ## Reading from a source -/

section

open Source

variable {ν : Type} {m : Type → Type} [Monad m] [Source ν m]

def readTexts (node : ν) : m (List String) := listOf text node

def readSecurity (node : ν) : m (List SecurityRequirement) := listOf (tableOf readTexts) node

def readParameters (node : ν) : m (List (OrRef Parameter)) :=
  listOf (typed (OrRef.read Parameter.read)) node

def Operation.fields : List Field :=
  [⟨"operationId", false⟩, ⟨"summary", false⟩, ⟨"description", false⟩, ⟨"tags", true⟩,
   ⟨"parameters", true⟩, ⟨"requestBody", false⟩, ⟨"responses", true⟩, ⟨"deprecated", false⟩,
   ⟨"security", false⟩, ⟨"x-codegen-request-body-name", false⟩, ⟨"x-accepts", false⟩,
   ⟨"x-contentType", false⟩, ⟨"consumes", false⟩, ⟨"produces", false⟩]

def Operation.read (node : ν) : m Operation := do
  let slots ← Source.fields Operation.fields node
  return {
    operationId := ← optionalField slots "operationId" text
    summary := ← optionalField slots "summary" text
    description := ← optionalField slots "description" text
    tags := ← withDefault slots "tags" [] readTexts
    parameters := ← withDefault slots "parameters" [] readParameters
    requestBody := ← optionalField slots "requestBody" (typed (OrRef.read RequestBody.read))
    responses := ← withDefault slots "responses" [] (tableOf (typed (OrRef.read Response.read)))
    deprecated := ← optionalField slots "deprecated" flag
    security := ← optionalField slots "security" readSecurity
    requestBodyName := ← optionalField slots "x-codegen-request-body-name" text
    accepts := ← optionalField slots "x-accepts" (typed MediaTypeList.read)
    contentType := ← optionalField slots "x-contentType" (typed MediaTypeList.read)
    consumes := ← optionalField slots "consumes" readTexts
    produces := ← optionalField slots "produces" readTexts }

/-- Takes one entry of a path item into account. A later entry for the same field counts; entries for
a method add up. -/
def PathItem.readEntry (item : PathItem) (key : String) (value : ν) : m PathItem :=
  match key with
  | "summary" => do return { item with summary := ← nullable text value }
  | "description" => do return { item with description := ← nullable text value }
  | "parameters" => do return { item with parameters := ← readParameters value }
  | _ =>
    match Method.ofKey? key with
    | some method => do
      let operation ← Operation.read value
      return { item with operations := item.operations ++ [(method, operation)] }
    | none => pure item

def PathItem.read (node : ν) : m PathItem := do
  (← entries node).foldlM (fun item (key, value) => item.readEntry key value) {}

def Components.fields : List Field :=
  [⟨"schemas", true⟩, ⟨"responses", true⟩, ⟨"parameters", true⟩, ⟨"requestBodies", true⟩,
   ⟨"headers", true⟩]

def Components.read (node : ν) : m Components := do
  let slots ← Source.fields Components.fields node
  return {
    schemas := ← withDefault slots "schemas" [] (tableOf (typed Schema.readOrRef))
    responses := ← withDefault slots "responses" [] (tableOf (typed (OrRef.read Response.read)))
    parameters := ← withDefault slots "parameters" [] (tableOf (typed (OrRef.read Parameter.read)))
    requestBodies := ← withDefault slots "requestBodies" []
      (tableOf (typed (OrRef.read RequestBody.read)))
    headers := ← withDefault slots "headers" [] (tableOf (typed (OrRef.read Header.read))) }

def Info.fields : List Field := [⟨"title", false⟩, ⟨"description", true⟩, ⟨"version", false⟩]

/-- What a document says about itself. -/
def Info.read (node : ν) : m Info := do
  let slots ← Source.fields Info.fields node
  return {
    title := ← Source.required slots "title" text
    description := ← optionalField slots "description" text
    version := ← Source.required slots "version" text }

def Document.fields : List Field :=
  [⟨"openapi", true⟩, ⟨"swagger", true⟩, ⟨"info", false⟩, ⟨"paths", true⟩, ⟨"components", true⟩,
   ⟨"security", true⟩, ⟨"definitions", true⟩, ⟨"parameters", true⟩, ⟨"responses", true⟩,
   ⟨"consumes", true⟩, ⟨"produces", true⟩]

/-- A document as it is written, before its version is looked at. -/
def Document.read (node : ν) : m Document := do
  let slots ← Source.fields Document.fields node
  return {
    openapi := ← withDefault slots "openapi" "" text
    swagger := ← optionalField slots "swagger" text
    info := ← Source.required slots "info" Info.read
    paths := ← withDefault slots "paths" [] (tableOf PathItem.read)
    components := ← optionalField slots "components" Components.read
    security := ← optionalField slots "security" readSecurity
    definitions := ← withDefault slots "definitions" [] (tableOf (typed Schema.readOrRef))
    parameters := ← withDefault slots "parameters" [] (tableOf (typed (OrRef.read Parameter.read)))
    responses := ← withDefault slots "responses" [] (tableOf (typed (OrRef.read Response.read)))
    consumes := ← withDefault slots "consumes" [] readTexts
    produces := ← withDefault slots "produces" [] readTexts }

end

end ApiRoutes
