import ApiRoutes.Path.Template
import ApiRoutes.Route.Basic

/-!
# Parameters of a route

A route has the parameters that its path item and its operation declare, and those that its path
implies. A later declaration with the same name and location replaces an earlier one in its place;
what the path implies is added only where nothing of the name is declared.

The parameters of a location can be put into one object schema (`objectSchema`).
-/

namespace ApiRoutes

namespace RouteParam

/-- Schema keywords of a parameter under those of its schema, which count where both have them. -/
def overlay (base top : Schema) : Schema :=
  { top with
    schemaType := top.schemaType <|> base.schemaType
    format := top.format <|> base.format
    items := top.items <|> base.items
    defaultValue := top.defaultValue <|> base.defaultValue
    enumValues := if top.enumValues.isEmpty then base.enumValues else top.enumValues }

/-- The schema of a declared parameter. A reference is taken as it is. -/
def declaredSchema (param : Parameter) : OrRef Schema :=
  match param.schema, param.keywordSchema with
  | some (.inline schema), some base => .inline (overlay base schema)
  | some schema, _ => schema
  | none, some base => .inline base
  | none, none => .inline {}

/-- The name of a parameter in its bucket: path parameters are in camel casing. -/
def bucketName (location : Location) (raw : String) : String :=
  match location with
  | .path => camelName raw
  | _ => raw

def schemaDescription? (param : Parameter) : Option String :=
  (param.schema.bind OrRef.value?).bind (·.description)

def ofDeclared? (origin : ParamOrigin) (param : Parameter) : Option RouteParam :=
  match param.location, param.name with
  | some location, some raw =>
    if raw = "" then none
    else
      some {
        name := bucketName location raw
        declaredName := raw
        location
        required := param.required
        description := schemaDescription? param <|> param.description
        deprecated := param.deprecated.getD false
        schema := declaredSchema param
        origin }
  | _, _ => none

def ofEntry? (r : Resolver) : OrRef Parameter → Option RouteParam
  | .inline param => ofDeclared? .explicit param
  | .ref path =>
    match r.resolve? path with
    | some { target := .parameter param, .. } => ofDeclared? (.referenced path) param
    | _ => none

/-- The notes on an entry that declares no parameter. -/
def entryNotes (r : Resolver) : OrRef Parameter → List Note
  | .inline _ => []
  | .ref path =>
    r.notes path ++
      match r.resolve? path with
      | some { target := .parameter _, .. } => []
      | some _ => [.debug (path ++ " is not a parameter, skipping")]
      | none => [.debug ("unresolved parameter " ++ path ++ ", skipping")]

def impliedLocation : ImpliedIn → Location
  | .path => .path
  | .query => .query

/-- A parameter that the path implies: a required text. -/
def ofImplied (implied : PathParameter) : RouteParam :=
  { name := implied.name
    declaredName := implied.name
    location := impliedLocation implied.place
    required := true
    description := none
    deprecated := false
    schema := .inline .string
    origin := .synthesized implied.token }

/-- Puts a parameter in the place of the one with its name, or at the end. -/
def replaceOrAppend (param : RouteParam) : List RouteParam → List RouteParam
  | [] => [param]
  | p :: rest => if p.name = param.name then param :: rest else p :: replaceOrAppend param rest

/-- The key of a parameter in an object: a name with points in camel casing. -/
def propertyName (param : RouteParam) : String :=
  if param.name.toList.contains '.' then camelName param.name else param.name

/-- The schema of a parameter as a property; an inline schema without description takes that of the
parameter. -/
def propertySchema (param : RouteParam) : OrRef Schema :=
  match param.schema with
  | .inline schema => .inline { schema with description := schema.description <|> param.description }
  | .ref path => .ref path

end RouteParam

namespace RouteParams

def declare (params : RouteParams) (param : RouteParam) : RouteParams :=
  params.setBucket param.location (param.replaceOrAppend (params.bucket param.location))

/-- Adds an implied parameter unless its name is there. -/
def imply (params : RouteParams) (implied : PathParameter) : RouteParams :=
  let location := RouteParam.impliedLocation implied.place
  let bucket := params.bucket location
  if bucket.any (·.name = implied.name) then params
  else params.setBucket location (bucket ++ [RouteParam.ofImplied implied])

/-- The parameters of a route: the declared ones in order, then those that the path implies. -/
def classify (r : Resolver) (declared : List (OrRef Parameter)) (template : PathTemplate) :
    RouteParams :=
  (template.pathParams ++ template.queryParams).foldl imply
    ((declared.filterMap (RouteParam.ofEntry? r)).foldl declare {})

end RouteParams

def objectProperties (params : List RouteParam) : Entries (OrRef Schema) :=
  params.foldl (fun table p => table.insert p.propertyName p.propertySchema) []

/-- The required properties of an object schema: of several parameters with one key the last counts,
and so does its place. -/
def objectRequired (params : List RouteParam) : List String :=
  params.foldl (fun required p =>
    let others := required.filter (· ≠ p.propertyName)
    if p.required then others ++ [p.propertyName] else others) []

def objectSchema (params : List RouteParam) : Schema :=
  .object (objectProperties params) (objectRequired params)

def RouteParams.objectSchema? (params : RouteParams) (location : Location) : Option Schema :=
  match params.bucket location with
  | [] => none
  | bucket => some (objectSchema bucket)

/-- The object schema of the query parameters together with the path parameters, which count where
both have a key; none without query parameters. -/
def RouteParams.requestSchema? (params : RouteParams) : Option Schema :=
  match params.query with
  | [] => none
  | query => some (objectSchema (query ++ params.path))

end ApiRoutes
