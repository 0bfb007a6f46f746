import ApiRoutes.Data.Source
import ApiRoutes.Route.Assemble

/-!
# Configuration

The settings of a project: what is read and written, and how routes are made. Every section and every
setting has a default.
-/

namespace ApiRoutes

structure Config where
  input : String := "openapi.yaml"
  output : String := "routes.json"
  options : RouteOptions := {}
  deriving Inhabited

namespace Config

def fileName : String := ".routegen.yaml"

/-- The configuration that a new project starts with. -/
def initialText : String :=
"# routegen configuration
input: openapi.yaml
output: routes.json

naming:
  strategy: use_operation_id  # use_operation_id | use_route_based
  aliases: \x7b\x7d
    # listPets: pets           # rendered route name -> custom name
  # route_name_template: \"\x7b\x7b method \x7d\x7d\x7b\x7b route_based_name | pascal_case \x7d\x7d\"

modules:
  first_tag: false      # name modules after the first tag
  path_index: 0         # otherwise, which path segment names the module
  sort_routes: false

responses:
  default_as_success: false
  success_range: [200, 299]
  # default_response_type: void

extract:
  request_body: false
  request_params: false
  response_body: false
  response_error: false
  request_body_suffixes: [Payload, Body, Input]
  request_params_suffixes: [Params]
  response_body_suffixes: [Data, Result, Output]
  response_error_suffixes: [Error, Fail, Fails, ErrorData, HttpError, BadResponse]

types:
  prefix: \"\"
  suffix: \"\"
"

section

open Source

variable {ν : Type} {m : Type → Type} [Monad m] [Source ν m]

/-- Fields that may all be left out. -/
def omittable (names : List String) : List Field := names.map (⟨·, true⟩)

def texts (node : ν) : m (List String) := listOf text node

def bounded (limit : Nat) (node : ν) : m Nat := do
  let n ← natural node
  if n ≤ limit then pure n else refuse ν

def strategy (node : ν) : m NamingStrategy := do
  match ← word node with
  | "use_operation_id" => pure .useOperationId
  | "use_route_based" => pure .useRouteBased
  | _ => refuse ν

/-- The least and the greatest code of a range. -/
def range (node : ν) : m (Nat × Nat) := do
  match ← items node with
  | [low, high] => do
    let low ← bounded Status.codeMax low
    let high ← bounded Status.codeMax high
    return (low, high)
  | _ => refuse ν

def naming (options : RouteOptions) (node : ν) : m RouteOptions := do
  let slots ← Source.fields (omittable ["strategy", "aliases", "route_name_template"]) node
  let namingStrategy ← withDefault slots "strategy" options.namingStrategy strategy
  let aliases ← withDefault slots "aliases" options.aliases (tableOf text)
  let nameTemplate ← match slots.find? "route_name_template" with
    | none => pure options.nameTemplate
    | some value => nullable text value
  return { options with namingStrategy, aliases, nameTemplate }

def modules (node : ν) : m ModuleOptions := do
  let slots ← Source.fields (omittable ["first_tag", "path_index", "sort_routes"]) node
  return {
    firstTag := ← withDefault slots "first_tag" false flag
    pathIndex := ← withDefault slots "path_index" 0 (bounded Decimal.wordMax)
    sortRoutes := ← withDefault slots "sort_routes" false flag }

def responses (node : ν) : m ResponseRules := do
  let slots ← Source.fields
    (omittable ["default_as_success", "success_range", "default_response_type"]) node
  return {
    defaultAsSuccess := ← withDefault slots "default_as_success" false flag
    successRange := ← withDefault slots "success_range" (200, 299) range
    defaultType := ← optionalField slots "default_response_type" text }

def extract (node : ν) : m ExtractOptions := do
  let slots ← Source.fields (omittable ["request_body", "request_params", "response_body",
    "response_error", "request_body_suffixes", "request_params_suffixes", "response_body_suffixes",
    "response_error_suffixes"]) node
  let initial : ExtractOptions := {}
  return {
    requestBody := ← withDefault slots "request_body" initial.requestBody flag
    requestParams := ← withDefault slots "request_params" initial.requestParams flag
    responseBody := ← withDefault slots "response_body" initial.responseBody flag
    responseError := ← withDefault slots "response_error" initial.responseError flag
    requestBodySuffixes :=
      ← withDefault slots "request_body_suffixes" initial.requestBodySuffixes texts
    requestParamsSuffixes :=
      ← withDefault slots "request_params_suffixes" initial.requestParamsSuffixes texts
    responseBodySuffixes :=
      ← withDefault slots "response_body_suffixes" initial.responseBodySuffixes texts
    responseErrorSuffixes :=
      ← withDefault slots "response_error_suffixes" initial.responseErrorSuffixes texts }

def types (node : ν) : m Affixes := do
  let slots ← Source.fields (omittable ["prefix", "suffix"]) node
  return {
    before := ← withDefault slots "prefix" "" text
    after := ← withDefault slots "suffix" "" text }

def read (node : ν) : m Config := do
  let slots ← Source.fields
    (omittable ["input", "output", "naming", "modules", "responses", "extract", "types"]) node
  let initial : Config := {}
  let input ← withDefault slots "input" initial.input text
  let output ← withDefault slots "output" initial.output text
  let options ← withDefault slots "naming" initial.options (naming initial.options)
  let modules ← withDefault slots "modules" options.modules modules
  let responses ← withDefault slots "responses" options.responses responses
  let extract ← withDefault slots "extract" options.extract extract
  let affixes ← withDefault slots "types" options.affixes types
  return { input, output, options := { options with modules, responses, extract, affixes } }

end

end Config

end ApiRoutes
