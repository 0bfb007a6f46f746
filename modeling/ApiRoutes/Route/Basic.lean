import ApiRoutes.Document.Basic
import ApiRoutes.Http.MediaTypes
import ApiRoutes.Http.Status
import ApiRoutes.Naming.RouteName
import ApiRoutes.Types.Registry

/-!
# Routes

A route is one operation of a document, resolved: its name, its parameters by location, the types of
its bodies, and the arguments of a call of it.
-/

namespace ApiRoutes

inductive ParamOrigin where
  | explicit
  | referenced (path : String)
  /-- The path implies it by the given text. -/
  | synthesized (token : String)
  deriving DecidableEq, Repr, Inhabited

structure RouteParam where
  name : String
  /-- The name as the document has it. -/
  declaredName : String
  location : Location
  required : Bool
  description : Option String
  deprecated : Bool
  schema : OrRef Schema
  origin : ParamOrigin
  deriving Inhabited

/-- A route's parameters by location, the unknown locations in order of appearance. -/
structure RouteParams where
  path : List RouteParam := []
  header : List RouteParam := []
  body : List RouteParam := []
  query : List RouteParam := []
  formData : List RouteParam := []
  cookie : List RouteParam := []
  other : Entries (List RouteParam) := []
  deriving Inhabited

namespace RouteParams

def bucket (params : RouteParams) : Location → List RouteParam
  | .path => params.path
  | .header => params.header
  | .body => params.body
  | .query => params.query
  | .formData => params.formData
  | .cookie => params.cookie
  | .other name => (params.other.find? name).getD []

def setBucket (params : RouteParams) (location : Location) (bucket : List RouteParam) : RouteParams :=
  match location with
  | .path => { params with path := bucket }
  | .header => { params with header := bucket }
  | .body => { params with body := bucket }
  | .query => { params with query := bucket }
  | .formData => { params with formData := bucket }
  | .cookie => { params with cookie := bucket }
  | .other name => { params with other := params.other.insert name bucket }

end RouteParams

structure PathArg where
  name : String
  optional : Bool
  type : String
  description : Option String
  deriving DecidableEq, Repr, Inhabited

structure RequestBodyInfo where
  name : String
  contentTypes : List String
  contentKind : ContentKind
  schema : Option (OrRef Schema)
  type : Option String
  required : Bool
  description : Option String
  deriving Inhabited

/-- The object of a route's query and path parameters. -/
structure RequestParamsInfo where
  schema : OrRef Schema
  type : String
  deriving Inhabited

structure ResponseInfo where
  status : Status
  contentTypes : List String
  contentKind : ContentKind
  type : String
  description : String
  isSuccess : Bool
  schema : Option (OrRef Schema)
  headers : Entries String
  deriving Inhabited

structure SuccessResponse where
  index : Option Nat
  type : String
  deriving DecidableEq, Repr, Inhabited

inductive ErrorSchema where
  | response (status : Status) (schema : Option (OrRef Schema)) (type : String)
  /-- The component that stands for all errors. -/
  | component (typeName path : String)
  deriving Inhabited

structure ErrorResponse where
  schemas : List ErrorSchema
  type : String
  deriving Inhabited

structure ResponseBodyInfo where
  contentTypes : List String
  responses : List ResponseInfo
  success : SuccessResponse
  error : ErrorResponse
  /-- The type of all responses with their envelopes. -/
  fullType : String
  deriving Inhabited

/-- An argument that bundles the parameters of one location, or the body. -/
structure SpecificArg where
  name : String
  optional : Bool
  type : String
  deriving DecidableEq, Repr, Inhabited

/-- The bundled arguments of a route. -/
structure SpecificArgs where
  query : Option SpecificArg := none
  body : Option SpecificArg := none
  pathParams : Option SpecificArg := none
  headers : Option SpecificArg := none
  deriving DecidableEq, Repr, Inhabited

def SpecificArgs.names (args : SpecificArgs) : List String :=
  ([args.query, args.body, args.pathParams, args.headers].filterMap id).map (·.name)

/-- What a route keeps of its operation as it is. -/
structure RawRouteInfo where
  operationId : Option String
  /-- The path as the document has it. -/
  declaredPath : String
  moduleName : Option String
  tags : List String
  summary : Option String
  description : Option String
  deprecated : Bool
  deriving DecidableEq, Repr, Inhabited

structure Route where
  id : Nat
  namespaceName : Option String
  routeName : RouteName
  method : Method
  path : String
  routeParams : RouteParams
  pathArgs : List PathArg
  requestBody : RequestBodyInfo
  requestParams : Option RequestParamsInfo
  responseBody : ResponseBodyInfo
  specificArgs : SpecificArgs
  security : Bool
  raw : RawRouteInfo
  deriving Inhabited

def Route.isFormData (route : Route) : Bool := route.requestBody.contentKind = .formData

/-- Routes that share a namespace, by their positions. -/
structure RouteModule where
  name : String
  routes : List Nat
  deriving DecidableEq, Repr, Inhabited

structure RouteSet where
  info : Info
  routes : List Route
  modules : List RouteModule
  /-- The positions of the routes without a namespace. -/
  outOfModule : List Nat
  components : List Component
  deriving Inhabited

def RouteSet.moduleRoutes (set : RouteSet) (module : RouteModule) : List Route :=
  module.routes.filterMap (set.routes[·]?)

end ApiRoutes
