import ApiRoutes.Naming.ArgNames
import ApiRoutes.Naming.NameTemplate
import ApiRoutes.Naming.PathName
import ApiRoutes.Route.Extract
import ApiRoutes.Route.Hooks
import ApiRoutes.Route.Params

/-!
# Making a route

A route is made from one operation: parameters, name, bodies, extracted components and arguments, in
this order. The registry of named schemas and the counts of names go from one operation to the next;
all else depends on the operation and the settings of the run only.
-/

namespace ApiRoutes

/-- How routes are named, grouped, typed and extracted. -/
structure RouteOptions where
  namingStrategy : NamingStrategy := .useOperationId
  /-- Replacements for rendered names. -/
  aliases : Entries String := []
  /-- The source of a template for names. -/
  nameTemplate : Option String := none
  modules : ModuleOptions := {}
  responses : ResponseRules := {}
  extract : ExtractOptions := {}
  affixes : Affixes := {}
  deriving Inhabited

/-- What all routes of a run share. -/
structure Assembler where
  resolver : Resolver
  hooks : RouteHooks
  options : RouteOptions
  template : NameTemplate
  globalSecurity : Bool

inductive RunError where
  /-- The template of names is wrong, or cannot be rendered. -/
  | template (error : Template.Error)
  /-- An argument of a route, given by method and path, cannot be named. -/
  | argName (route : String) (error : ArgNameError)
  deriving DecidableEq, Repr, Inhabited

def RunError.argNameMessage (route : String) (error : ArgNameError) : String :=
  "argument naming failed for " ++ route ++ ": " ++ error.message

/-- What goes from one operation to the next: the named schemas, the counts of names, and the number
of the next route. -/
structure RunState where
  registry : Registry
  names : RouteNames := {}
  nextId : Nat := 1
  deriving Inhabited

/-- The outcome for one operation. A hook may drop its route. -/
structure Assembled where
  route : Option Route
  state : RunState
  notes : List Note

namespace Assembler

def inlineBody? (r : Resolver) : OrRef RequestBody → Option RequestBody
  | .inline body => some body
  | .ref path =>
    match r.resolve? path with
    | some { target := .requestBody body, .. } => some body
    | _ => none

/-- Whether a type expression has a field that holds a file. -/
def hasFileField (type : String) : Bool :=
  Text.occurs ": File".toList type.toList || Text.occurs ": Blob".toList type.toList

/-- The name of the body's argument where nothing asks for another. -/
def defaultBodyName : String := "data"

/-- The request body of an operation: its form parameters if there are any, else the declared body. -/
def requestBody (r : Resolver) (registry : Registry) (op : Operation) (params : RouteParams) :
    RequestBodyInfo :=
  let inline := op.requestBody.bind (inlineBody? r)
  let name := ((op.requestBodyName <|> inline.bind (·.name))).getD defaultBodyName
  let explicit := (op.contentType.map MediaTypeList.toList).getD []
  let contentTypes := ApiRoutes.contentTypes explicit (inline.toList.map (·.content.keys))
  let description := (inline.bind (·.description)).map Text.multiLine
  match params.formData with
  | _ :: _ =>
    let schema : OrRef Schema := .inline (objectSchema params.formData)
    { name, contentTypes, contentKind := .formData, schema := some schema
      type := some (r.typeExpr schema), required := params.formData.any (·.required), description }
  | [] =>
    let body := op.requestBody.map fun entry =>
      ResolvedBody.ofNode r registry.known op.operationId none (.request entry)
    let type := body.map fun body => decorateNullable body.nullable body.type
    let kind := ContentKind.classify contentTypes
    { name, contentTypes
      contentKind :=
        if kind = .json && (type.map hasFileField).getD false then .formData else kind
      schema := body.bind (·.schema)
      type
      required := op.requestBody.isSome && inline.bind (·.required) ≠ some false
      description }

def requestBodyNotes (r : Resolver) (registry : Registry) (op : Operation) (params : RouteParams) :
    List Note :=
  match op.requestBody with
  | none => []
  | some entry =>
    entryNotes r entry ++
      if params.formData.isEmpty then
        ResolvedBody.notes r registry.known op.operationId (.request entry)
      else []

/-- The argument that bundles the parameters at a location, if there are any. -/
def bucketArg (r : Resolver) (params : RouteParams) (location : Location) (candidates : List String)
    (names : ArgNames) : Except ArgNameError (Option SpecificArg × ArgNames) :=
  match params.objectSchema? location with
  | none => .ok (none, names)
  | some schema => do
    let (name, names) ← names.resolve candidates
    return (some {
      name
      optional := (r.shape (.inline schema)).allFieldsOptional
      type := r.typeExpr (.inline schema) }, names)

/-- The argument for the body, if it has a type. -/
def bodyArg (body : RequestBodyInfo) (names : ArgNames) :
    Except ArgNameError (Option SpecificArg × ArgNames) :=
  match body.type with
  | none => .ok (none, names)
  | some type => do
    let (name, names) ← names.resolve (body.name :: ArgNames.forBody)
    return (some { name, optional := !body.required, type }, names)

/-- The bundled arguments of a route: query, body, path parameters and headers, named in this order. -/
def specificArgs (r : Resolver) (params : RouteParams) (pathArgs : List PathArg)
    (body : RequestBodyInfo) : Except ArgNameError SpecificArgs := do
  let names : ArgNames := ⟨pathArgs.map (·.name)⟩
  let (query, names) ← bucketArg r params .query ArgNames.forQuery names
  let (body, names) ← bodyArg body names
  let (pathParams, names) ← bucketArg r params .path ArgNames.forPathParams names
  let (headers, _) ← bucketArg r params .header ArgNames.forHeaders names
  return { query, body, pathParams, headers }

def renameBody (body : RequestBodyInfo) (args : SpecificArgs) : RequestBodyInfo :=
  match args.body with
  | some arg => { body with name := arg.name }
  | none => body

def pathArgs (r : Resolver) (params : RouteParams) : List PathArg :=
  params.path.map fun param =>
    { name := param.name, optional := !param.required, type := r.typeExpr param.schema,
      description := param.description }

/-- Whether an operation needs authentication: what it says itself, else what the document says. -/
def security (globalSecurity : Bool) (op : Operation) : Bool :=
  match op.security with
  | some requirements => !requirements.isEmpty
  | none => globalSecurity

def rawInfo (entry : Document.Entry) (namespaceName : Option String) : RawRouteInfo :=
  let op := entry.operation
  { operationId := op.operationId, declaredPath := entry.path, moduleName := namespaceName
    tags := op.tags, summary := op.summary, description := op.description
    deprecated := op.deprecated.getD false }

/-- The name of a route before repeats are numbered. -/
def baseName (a : Assembler) (entry : Document.Entry) (path : String) (namespaceName : Option String)
    (pathArgs : List PathArg) : Except RunError String := do
  let op := entry.operation
  let context : NameContext :=
    { operationId := op.operationId, method := entry.method.key, path, moduleName := namespaceName
      tags := op.tags, summary := op.summary, description := op.description
      pathArgs := pathArgs.map (·.name), strategy := a.options.namingStrategy
      routeBasedName := pathName entry.method.verb path }
  let rendered ← (a.template.render context).mapError RunError.template
  return a.hooks.name (rawInfo entry namespaceName) ((a.options.aliases.find? rendered).getD rendered)

/-- The object of query and path parameters, extracted if it is to be. -/
def requestParams (a : Assembler) (registry : Registry) (usage : String) (params : RouteParams) :
    Extraction (Option RequestParamsInfo) :=
  match params.requestSchema? with
  | none => { value := none, registry }
  | some schema =>
    let extraction := extractRequestParams a.resolver registry a.options.extract usage
      (a.hooks.requestParams params schema)
    { value := some extraction.value, registry := extraction.registry, notes := extraction.notes }

def assemble (a : Assembler) (state : RunState) (entry : Document.Entry) :
    Except RunError Assembled := do
  let op := entry.operation
  let r := a.resolver
  let extract := a.options.extract
  let path := a.hooks.path entry.path
  let template := PathTemplate.ofPath path
  let declared := entry.shared ++ op.parameters
  let params := RouteParams.classify r declared template
  let namespaceName := namespaceOf a.options.modules path op.tags
  let pathArgs := pathArgs r params
  let base ← a.baseName entry path namespaceName pathArgs
  let (routeName, names) := state.names.resolve namespaceName base
  let declaredBody := requestBody r state.registry op params
  let body := extractRequestBody r state.registry extract routeName.usage declaredBody
  let responses := ResponseBodyInfo.ofOperation r body.registry.known a.options.responses op
  let success := extractResponseBody r body.registry extract routeName.usage responses
  let error := extractResponseError r success.registry extract routeName.usage success.value
  let requestParams := a.requestParams error.registry routeName.usage params
  let title := entry.method.verb ++ " " ++ entry.path
  let args ← (specificArgs r params pathArgs body.value).mapError (RunError.argName title)
  let route : Route :=
    { id := state.nextId, namespaceName, routeName, method := entry.method, path := template.route
      routeParams := params, pathArgs, requestBody := renameBody body.value args
      requestParams := requestParams.value, responseBody := error.value, specificArgs := args
      security := security a.globalSecurity op, raw := rawInfo entry namespaceName }
  return {
    route := a.hooks.route route
    state := { registry := requestParams.registry, names, nextId := state.nextId + 1 }
    notes :=
      PathTemplate.notes path ++ declared.flatMap (RouteParam.entryNotes r) ++
      RouteNames.notes namespaceName routeName ++ [.debug (title ++ " -> " ++ routeName.usage)] ++
      requestBodyNotes r state.registry op params ++ body.notes ++
      ResponseBodyInfo.notes r body.registry.known op ++ success.notes ++ error.notes ++
      requestParams.notes }

end Assembler

end ApiRoutes
