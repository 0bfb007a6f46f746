import ApiRoutes.Document.Basic
import ApiRoutes.Log

/-!
# The upgrade of older documents

A document of version 2 keeps definitions, parameters and responses at the top, sends bodies as
parameters, and gives a response's schema without a media type. The upgrade moves each of these to its
place in version 3. References keep their text, since they resolve with either root.
-/

namespace ApiRoutes

namespace Upgrade

/-- The media type of a body that declares none. -/
def defaultMediaType : String := "application/json"

def urlEncoded : String := "application/x-www-form-urlencoded"

def multipart : String := "multipart/form-data"

/-- The version of an upgraded document. -/
def version : String := "3.0.0"

/-- The parameter of an entry, at the end of its chain if it is a reference. -/
def parameterOf? (components : Components) : OrRef Parameter → Option Parameter
  | .inline param => some param
  | .ref path => (components.parameterAt path).toOption

def isAt (components : Components) (location : Location) (entry : OrRef Parameter) : Bool :=
  match parameterOf? components entry with
  | some param => param.location = some location
  | none => false

/-- The first body parameter of a list, if there is one, and the other entries. -/
def takeBody (components : Components) :
    List (OrRef Parameter) → Option Parameter × List (OrRef Parameter)
  | [] => (none, [])
  | entry :: rest =>
    if isAt components .body entry then (parameterOf? components entry, rest)
    else
      let (body, kept) := takeBody components rest
      (body, entry :: kept)

def bodyMediaTypes (consumes : List String) : List String :=
  match consumes.filter fun t => t ≠ urlEncoded && t ≠ multipart with
  | [] => [defaultMediaType]
  | types => types

/-- One schema under each of several media types. -/
def contentOf (mediaTypes : List String) (schema : Option (OrRef Schema)) : Entries MediaType :=
  Entries.ofList (mediaTypes.map fun t => (t, { schema }))

def bodySchema (body : Parameter) : Option (OrRef Schema) :=
  body.schema <|> body.keywordSchema.map .inline

def liftedBody (consumes : List String) (body : Parameter) : RequestBody :=
  { description := body.description
    content := contentOf (bodyMediaTypes consumes) (bodySchema body)
    required := some body.required }

/-- An operation with a body parameter as its request body, unless it has one already. -/
def withBody (consumes : List String) (op : Operation) : Option Parameter → Operation
  | none => op
  | some body =>
    if op.requestBody.isSome then op
    else
      { op with
        requestBody := some (.inline (liftedBody consumes body))
        requestBodyName := op.requestBodyName <|> body.name }

/-- Whether a parameter is an upload. -/
def isFile (param : Parameter) : Bool := param.schemaType = some (.single .file)

/-- The media types of a form: those of the form types that are declared, else the one its parameters
need. -/
def formMediaTypes (consumes : List String) (form : List Parameter) : List String :=
  match consumes.filter fun t => t = urlEncoded || t = multipart with
  | [] => [if form.any isFile then multipart else urlEncoded]
  | types => types

/-- The form parameters among several entries. -/
def formParameters (components : Components) (entries : List (OrRef Parameter)) : List Parameter :=
  (entries.filterMap (parameterOf? components)).filter (·.location = some .formData)

/-- An operation with the media types that its form parameters ask for, unless it declares some. -/
def withFormTypes (components : Components) (consumes : List String)
    (shared : List (OrRef Parameter)) (op : Operation) : Operation :=
  if op.contentType.isSome then op
  else
    match formParameters components (shared ++ op.parameters) with
    | [] => op
    | form => { op with contentType := some (.many (formMediaTypes consumes form)) }

/-- A header whose schema is made from its keywords where it has none. -/
def liftHeader : OrRef Header → OrRef Header
  | .ref path => .ref path
  | .inline header =>
    .inline { header with schema := header.schema <|> header.keywordSchema.map .inline }

/-- A response whose schema is put under media types, unless it has content, and whose headers have
schemas. -/
def liftResponse (produces : List String) (response : Response) : Response :=
  let content :=
    match response.schema, response.content with
    | some schema, [] =>
      contentOf (if produces.isEmpty then [defaultMediaType] else produces) (some schema)
    | _, content => content
  { response with content, schema := none, headers := response.headers.mapValues liftHeader }

/-- A response entry, lifted if it is no reference. -/
def liftResponseEntry (produces : List String) : OrRef Response → OrRef Response
  | .ref path => .ref path
  | .inline response => .inline (liftResponse produces response)

/-- The components together with the sections of an older document. -/
def components (doc : Document) : Components :=
  let own := doc.parts
  { own with
    schemas := own.schemas.extend doc.definitions
    parameters := own.parameters.extend doc.parameters
    responses := own.responses.extend (doc.responses.mapValues (liftResponseEntry doc.produces)) }

/-- An operation in the new form. `shared` are the parameters of the path but for a body parameter,
which is `sharedBody`. -/
def operation (doc : Document) (shared : List (OrRef Parameter)) (sharedBody : Option Parameter)
    (op : Operation) : Operation :=
  let components := components doc
  let consumes := op.consumes.getD doc.consumes
  let produces := op.produces.getD doc.produces
  let (own, parameters) := takeBody components op.parameters
  let op := { op with parameters, consumes := none, produces := none }
  let op := withFormTypes components consumes shared (withBody consumes op (own <|> sharedBody))
  { op with responses := op.responses.mapValues (liftResponseEntry produces) }

def pathItem (doc : Document) (item : PathItem) : PathItem :=
  let (sharedBody, shared) := takeBody (components doc) item.parameters
  { item with
    parameters := shared
    operations := item.operations.map fun (method, op) =>
      (method, operation doc shared sharedBody op) }

/-- A note for each operation whose request body is made from a parameter. -/
def notes (doc : Document) : List Note :=
  doc.operations.flatMap fun entry =>
    let own := (takeBody (components doc) entry.operation.parameters).1
    let shared := (takeBody (components doc) entry.shared).1
    if entry.operation.requestBody.isNone && (own <|> shared).isSome then
      [.debug (entry.method.verb ++ " " ++ entry.path ++ ": body parameter lifted")]
    else []

end Upgrade

/-- The document in the form of version 3. -/
def Document.upgrade (doc : Document) : Document :=
  { doc with
    openapi := Upgrade.version
    components := some (Upgrade.components doc)
    paths := doc.paths.mapValues (Upgrade.pathItem doc)
    definitions := []
    parameters := []
    responses := []
    consumes := []
    produces := [] }

inductive VersionError where
  | unsupported (version : String)
  | missing
  deriving DecidableEq, Repr, Inhabited

def VersionError.message : VersionError → String
  | .unsupported version => "unsupported OpenAPI version: " ++ version
  | .missing => "document declares neither `openapi` nor `swagger`"

/-- Whether a version starts with a given number and a point. -/
def isMajor (number : Char) (version : String) : Bool :=
  match version.toList with
  | c :: '.' :: _ => c = number
  | _ => false

/-- A document as the rest of the library takes it: version 3 as it is, version 2 upgraded. The older
version counts where both are given. -/
def Document.current (doc : Document) : Except VersionError Document :=
  match doc.swagger with
  | some version => if isMajor '2' version then .ok doc.upgrade else .error (.unsupported version)
  | none =>
    if isMajor '3' doc.openapi then .ok doc
    else if doc.openapi = "" then .error .missing
    else .error (.unsupported doc.openapi)

theorem Document.current_of_older {doc : Document} {version : String}
    (hversion : doc.swagger = some version) (hmajor : isMajor '2' version = true) :
    doc.current = .ok doc.upgrade := by
  rw [Document.current, hversion]
  exact if_pos hmajor

def Document.currentNotes (doc : Document) : List Note :=
  match doc.swagger with
  | some version => if isMajor '2' version then Upgrade.notes doc else []
  | none => []

end ApiRoutes
