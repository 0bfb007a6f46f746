import ApiRoutes.Route.Responses
import ApiRoutes.Text.Casing

/-!
# Extracting components

Inline schemas of a route may be moved to components of their own, which are named after the route
with a suffix. The route then refers to the component.
-/

namespace ApiRoutes

/-- Which inline schemas become components, and the suffixes of their names. -/
structure ExtractOptions where
  requestBody : Bool := false
  requestParams : Bool := false
  responseBody : Bool := false
  responseError : Bool := false
  requestBodySuffixes : List String := ["Payload", "Body", "Input"]
  requestParamsSuffixes : List String := ["Params"]
  responseBodySuffixes : List String := ["Data", "Result", "Output"]
  responseErrorSuffixes : List String :=
    ["Error", "Fail", "Fails", "ErrorData", "HttpError", "BadResponse"]
  deriving DecidableEq, Repr, Inhabited

/-- The names that a component of a route may have, one for each suffix. -/
def componentNames (usage : String) (suffixes : List String) : List String :=
  suffixes.map (Text.pascalCase usage ++ ·)

/-- Something computed with the registry as it is afterwards and notes on the way. -/
structure Extraction (α : Type) where
  value : α
  registry : Registry
  notes : List Note := []

def hoist (r : Resolver) (registry : Registry) (usage : String) (suffixes : List String)
    (schema : OrRef Schema) : Component × Registry :=
  registry.create r .schemas (componentNames usage suffixes) schema

/-- Moves the inline schema of a request body to a component. -/
def extractRequestBody (r : Resolver) (registry : Registry) (options : ExtractOptions)
    (usage : String) (body : RequestBodyInfo) : Extraction RequestBodyInfo :=
  match options.requestBody, body.schema with
  | true, some (.inline schema) =>
    let (component, registry) :=
      hoist r registry usage options.requestBodySuffixes (.inline schema)
    { value := { body with schema := some (.ref component.path), type := some component.typeName }
      registry
      notes := Registry.notes component }
  | _, _ => { value := body, registry }

/-- Moves the inline schema of the success to a component. -/
def extractResponseBody (r : Resolver) (registry : Registry) (options : ExtractOptions)
    (usage : String) (info : ResponseBodyInfo) : Extraction ResponseBodyInfo :=
  match options.responseBody, info.success.index with
  | true, some index =>
    match info.responses[index]? with
    | some response =>
      match response.schema with
      | some (.inline schema) =>
        let (component, registry) :=
          hoist r registry usage options.responseBodySuffixes (.inline schema)
        let response :=
          { response with schema := some (.ref component.path), type := component.typeName }
        { value := ({ info with responses := info.responses.set index response }).rebuild
          registry
          notes := Registry.notes component }
      | _ => { value := info, registry }
    | none => { value := info, registry }
  | _, _ => { value := info, registry }

/-- The schema whose title and description label an error. -/
def labelledSchema? (r : Resolver) : OrRef Schema → Option Schema
  | .inline schema => some schema
  | .ref path =>
    match r.resolve? path with
    | some { target := .schema (.inline schema), .. } => some schema
    | _ => none

def errorSchemas (error : ErrorResponse) : List (OrRef Schema) :=
  error.schemas.filterMap fun
    | .response _ schema _ => schema
    | .component _ _ => none

/-- Non-empty texts joined, if there are any. -/
def joinLabels (separator : String) (labels : List String) : Option String :=
  match labels.filter (· ≠ "") with
  | [] => none
  | labels => some (Text.joinWith separator labels)

/-- The schema that stands for several error schemas. -/
def mergedError (r : Resolver) (schemas : List (OrRef Schema)) : Schema :=
  let labelled := schemas.filterMap (labelledSchema? r)
  { title := joinLabels " " (labelled.filterMap (·.title))
    description := joinLabels "\n" (labelled.filterMap (·.description))
    oneOf := schemas }

/-- Merges the error schemas into one component, if there are any. -/
def extractResponseError (r : Resolver) (registry : Registry) (options : ExtractOptions)
    (usage : String) (info : ResponseBodyInfo) : Extraction ResponseBodyInfo :=
  match options.responseError, errorSchemas info.error with
  | true, schema :: rest =>
    let schemas := schema :: rest
    let (component, registry) :=
      hoist r registry usage options.responseErrorSuffixes (.inline (mergedError r schemas))
    { value := { info with
        error := { schemas := [.component component.typeName component.path]
                   type := component.typeName } }
      registry
      notes := schemas.flatMap (entryNotes r) ++ Registry.notes component }
  | _, _ => { value := info, registry }

/-- The object of a route's query and path parameters, as a component if it is to be one. -/
def extractRequestParams (r : Resolver) (registry : Registry) (options : ExtractOptions)
    (usage : String) (schema : Schema) : Extraction RequestParamsInfo :=
  if options.requestParams then
    let (component, registry) :=
      hoist r registry usage options.requestParamsSuffixes (.inline schema)
    { value := { schema := .ref component.path, type := component.typeName }
      registry
      notes := Registry.notes component }
  else { value := { schema := .inline schema, type := r.typeExpr (.inline schema) }, registry }

end ApiRoutes
