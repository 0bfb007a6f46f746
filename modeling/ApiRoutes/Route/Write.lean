import ApiRoutes.Document.Write
import ApiRoutes.Route.Basic

/-!
# Writing routes

The serialized form of a route set and of its parts: records with their fields in a fixed order,
optional fields left out where they have no value.
-/

namespace ApiRoutes

open Content (optionalField ofFields)

def ContentKind.name : ContentKind → String
  | json => "JSON"
  | urlEncoded => "URL_ENCODED"
  | formData => "FORM_DATA"
  | image => "IMAGE"
  | other => "OTHER"

def ContentKind.write (kind : ContentKind) : Content := .text kind.name

/-- A status: a number, or a token. -/
def Status.write : Status → Content
  | .code n => .nat n
  | .token text => .text text

def RouteName.write (name : RouteName) : Content :=
  ofFields [("original", .text name.base), ("usage", .text name.usage),
    ("duplicate", .bool name.duplicate)]

def ParamOrigin.write : ParamOrigin → Content
  | explicit => ofFields [("kind", .text "explicit")]
  | referenced path => ofFields [("kind", .text "referenced"), ("ref_path", .text path)]
  | synthesized token => ofFields [("kind", .text "synthesized"), ("token", .text token)]

def RouteParam.write (p : RouteParam) : Content :=
  ofFields (
    [("name", .text p.name), ("original_name", .text p.declaredName), ("in", .text p.location.name),
      ("required", .bool p.required)] ++
    optionalField "description" Content.text p.description ++
    [("deprecated", .bool p.deprecated), ("schema", Schema.writeOrRef p.schema),
      ("origin", p.origin.write)])

def RouteParams.write (params : RouteParams) : Content :=
  let bucket (name : String) (params : List RouteParam) : String × Content :=
    (name, .list (params.map RouteParam.write))
  ofFields ([bucket "path" params.path, bucket "header" params.header, bucket "body" params.body,
    bucket "query" params.query, bucket "formData" params.formData, bucket "cookie" params.cookie] ++
    params.other.map fun (name, params) => bucket name params)

def PathArg.write (arg : PathArg) : Content :=
  ofFields (
    [("name", .text arg.name), ("optional", .bool arg.optional), ("type", .text arg.type)] ++
    optionalField "description" Content.text arg.description)

def RequestBodyInfo.write (body : RequestBodyInfo) : Content :=
  ofFields (
    [("name", .text body.name), ("content_types", .texts body.contentTypes),
      ("content_kind", body.contentKind.write)] ++
    optionalField "schema" Schema.writeOrRef body.schema ++
    optionalField "type" Content.text body.type ++
    [("required", .bool body.required)] ++
    optionalField "description" Content.text body.description)

/-- The object of query and path parameters. -/
def RequestParamsInfo.write (params : RequestParamsInfo) : Content :=
  ofFields [("schema", Schema.writeOrRef params.schema), ("type", .text params.type)]

def ResponseInfo.write (response : ResponseInfo) : Content :=
  ofFields (
    [("status", response.status.write), ("content_types", .texts response.contentTypes),
      ("content_kind", response.contentKind.write), ("type", .text response.type),
      ("description", .text response.description), ("is_success", .bool response.isSuccess)] ++
    optionalField "schema" Schema.writeOrRef response.schema ++
    Content.tableField "headers" Content.text response.headers)

def SuccessResponse.write (success : SuccessResponse) : Content :=
  ofFields (optionalField "index" Content.nat success.index ++ [("type", .text success.type)])

def ErrorSchema.write : ErrorSchema → Content
  | response status schema type =>
    ofFields ([("kind", .text "response"), ("status", status.write)] ++
      optionalField "schema" Schema.writeOrRef schema ++ [("type", .text type)])
  | component typeName path =>
    ofFields [("kind", .text "component"), ("type_name", .text typeName), ("ref_path", .text path)]

def ResponseBodyInfo.write (info : ResponseBodyInfo) : Content :=
  ofFields [
    ("content_types", .texts info.contentTypes),
    ("responses", .list (info.responses.map ResponseInfo.write)),
    ("success", info.success.write),
    ("error", ofFields [("schemas", .list (info.error.schemas.map ErrorSchema.write)),
      ("type", .text info.error.type)]),
    ("full", ofFields [("type", .text info.fullType)])]

def SpecificArg.write (arg : SpecificArg) : Content :=
  ofFields [("name", .text arg.name), ("optional", .bool arg.optional), ("type", .text arg.type)]

def SpecificArgs.write (args : SpecificArgs) : Content :=
  ofFields (
    optionalField "query" SpecificArg.write args.query ++
    optionalField "body" SpecificArg.write args.body ++
    optionalField "pathParams" SpecificArg.write args.pathParams ++
    optionalField "headers" SpecificArg.write args.headers)

def RawRouteInfo.write (raw : RawRouteInfo) : Content :=
  ofFields (
    optionalField "operation_id" Content.text raw.operationId ++
    [("original_route", .text raw.declaredPath)] ++
    optionalField "module_name" Content.text raw.moduleName ++
    [("tags", .texts raw.tags)] ++
    optionalField "summary" Content.text raw.summary ++
    optionalField "description" Content.text raw.description ++
    [("deprecated", .bool raw.deprecated)])

def Route.write (route : Route) : Content :=
  ofFields (
    [("id", .nat route.id)] ++
    optionalField "namespace" Content.text route.namespaceName ++
    [("route_name", route.routeName.write), ("method", .text route.method.key),
      ("path", .text route.path), ("route_params", route.routeParams.write),
      ("path_args", .list (route.pathArgs.map PathArg.write)),
      ("request_body", route.requestBody.write)] ++
    optionalField "request_params" RequestParamsInfo.write route.requestParams ++
    [("response_body", route.responseBody.write), ("specific_args", route.specificArgs.write),
      ("security", .bool route.security), ("raw", route.raw.write)])

def Component.write (component : Component) : Content :=
  ofFields [("type_name", .text component.typeName), ("ref_path", .text component.path),
    ("category", .text component.category.name), ("schema", Schema.writeOrRef component.schema)]

def RouteModule.write (module : RouteModule) : Content :=
  ofFields [("name", .text module.name), ("routes", .list (module.routes.map Content.nat))]

/-- What a document says about itself. -/
def Info.write (info : Info) : Content :=
  ofFields ([("title", .text info.title)] ++
    optionalField "description" Content.text info.description ++ [("version", .text info.version)])

def RouteSet.write (set : RouteSet) : Content :=
  ofFields [
    ("info", set.info.write),
    ("routes", .list (set.routes.map Route.write)),
    ("modules", .list (set.modules.map RouteModule.write)),
    ("out_of_module", .list (set.outOfModule.map Content.nat)),
    ("components", .list (set.components.map Component.write))]

end ApiRoutes
