import ApiRoutes.Route.BodyType
import ApiRoutes.Text.Description

/-!
# Responses of a route

Every declared response is classified and typed. Three views sum them up: the first success, the
errors, and the full type, in which each response stands in an envelope with its status and headers.
-/

namespace ApiRoutes

/-- The response of an entry, empty if it is a reference that leads nowhere. -/
def inlineResponse (r : Resolver) : OrRef Response → Response
  | .inline response => response
  | .ref path =>
    match r.resolve? path with
    | some { target := .response response, .. } => response
    | _ => {}

def headerSchema? (r : Resolver) : OrRef Header → Option (OrRef Schema)
  | .inline header => header.schema
  | .ref path =>
    match r.resolve? path with
    | some { target := .header header, .. } => header.schema
    | _ => none

def headerTypes (r : Resolver) (headers : Entries (OrRef Header)) : Entries String :=
  headers.mapValues fun header =>
    match headerSchema? r header with
    | some schema => r.typeExpr schema
    | none => unknownType

/-- The notes on an entry that may be a reference. -/
def entryNotes {α : Type} (r : Resolver) : OrRef α → List Note
  | .inline _ => []
  | .ref path => r.notes path

namespace ResponseInfo

def ofEntry (r : Resolver) (known : List NamedSchema) (rules : ResponseRules)
    (operationId : Option String) (key : String) (entry : OrRef Response) : ResponseInfo :=
  let status := Status.ofKey key
  let inline := inlineResponse r entry
  let types := ApiRoutes.contentTypes [] [inline.content.keys]
  let body := ResolvedBody.ofNode r known operationId rules.defaultType (.response entry)
  { status
    contentTypes := types
    contentKind := .classify types
    type := decorateNullable body.nullable body.type
    description := Text.singleLine inline.description
    isSuccess := rules.isSuccess status
    schema := body.schema
    headers := headerTypes r inline.headers }

def notes (r : Resolver) (known : List NamedSchema) (operationId : Option String)
    (entry : OrRef Response) : List Note :=
  entryNotes r entry ++ ResolvedBody.notes r known operationId (.response entry) ++
    (inlineResponse r entry).headers.values.flatMap (entryNotes r)

/-- The type of the headers in an envelope. -/
def headersType (headers : Entries String) : String :=
  match headers with
  | [] => "\x7b\x7d"
  | _ =>
    "\x7b " ++ Text.joinWith "; " (headers.map fun (name, type) =>
      Text.propertyKey name ++ ": " ++ type) ++ " \x7d"

/-- The type of a response in its envelope. -/
def envelope (response : ResponseInfo) : String :=
  let status := match response.status.number? with
    | some code => Nat.repr code
    | none => "number"
  "\x7b data: " ++ response.type ++ "; status: " ++ status ++ "; statusCode: " ++ status ++
    "; statusText: " ++ Text.quoted response.description ++ "; headers: " ++
    headersType response.headers ++ "; config: \x7b\x7d \x7d"

end ResponseInfo

def successIndex? (responses : List ResponseInfo) : Option Nat := responses.findIdx? (·.isSuccess)

def SuccessResponse.ofResponses (responses : List ResponseInfo) : SuccessResponse :=
  { index := successIndex? responses
    type :=
      match (successIndex? responses).bind (responses[·]?) with
      | some response => response.type
      | none => unknownType }

def ErrorSchema.type : ErrorSchema → String
  | .response _ _ type => type
  | .component typeName _ => typeName

/-- The errors: the responses that are no success and have a known type. -/
def ErrorResponse.ofResponses (responses : List ResponseInfo) : ErrorResponse :=
  let failures := responses.filter fun response => !response.isSuccess && response.type ≠ unknownType
  let schemas := failures.map fun response =>
    ErrorSchema.response response.status response.schema response.type
  { schemas
    type :=
      match schemas with
      | [] => unknownType
      | _ => Text.joinDistinct " | " (schemas.map ErrorSchema.type) }

/-- The type of all responses in their envelopes. -/
def fullType (responses : List ResponseInfo) : String :=
  match responses with
  | [] => unknownType
  | _ => Text.joinDistinct " | " (responses.map ResponseInfo.envelope)

namespace ResponseBodyInfo

def ofOperation (r : Resolver) (known : List NamedSchema) (rules : ResponseRules) (op : Operation) :
    ResponseBodyInfo :=
  let responses := op.responses.map fun (key, entry) =>
    ResponseInfo.ofEntry r known rules op.operationId key entry
  let explicit := (op.accepts.map MediaTypeList.toList).getD []
  let contents := op.responses.map fun (_, entry) => (inlineResponse r entry).content.keys
  { contentTypes := ApiRoutes.contentTypes explicit contents
    responses
    success := .ofResponses responses
    error := .ofResponses responses
    fullType := ApiRoutes.fullType responses }

def notes (r : Resolver) (known : List NamedSchema) (op : Operation) : List Note :=
  op.responses.values.flatMap (ResponseInfo.notes r known op.operationId)

/-- The success and the full type made anew from the responses. -/
def rebuild (info : ResponseBodyInfo) : ResponseBodyInfo :=
  let type :=
    match info.success.index.bind (info.responses[·]?) with
    | some response => response.type
    | none => info.success.type
  { info with
    success := { info.success with type }
    fullType := ApiRoutes.fullType info.responses }

end ResponseBodyInfo

end ApiRoutes
