import ApiRoutes.Route.Run

/-!
# What is made of one operation

`Assembler.assemble` makes a route in one go. Here each of its stages has a name of its own, as a
function of the operation and of the part of the state that the stage reads, so that what a stage
depends on can be read off its arguments:

- the parameters and the module of an operation depend on the operation alone;
- its name also on the counts of names, and nothing else does;
- its body, responses and components depend on the registry and on the name.

`assemble_eq` says that the stages make up the whole, and `assemble_ok` takes a successful outcome
apart. Nothing that follows unfolds `Assembler.assemble` again.
-/

namespace ApiRoutes

/-! ## Outcomes -/

/-- A computation in two steps succeeds when both steps do. -/
theorem bind_ok {ε α β : Type} {x : Except ε α} {f : α → Except ε β} {b : β}
    (h : x >>= f = .ok b) : ∃ a, x = .ok a ∧ f a = .ok b := by
  cases x with
  | error e => cases h
  | ok a => exact ⟨a, rfl, h⟩

/-- Success does not depend on how errors are reported. -/
theorem mapError_ok {ε ε' α : Type} {f : ε → ε'} {x : Except ε α} {a : α}
    (h : x.mapError f = .ok a) : x = .ok a := by
  cases x with
  | error e => cases h
  | ok b => cases h; rfl

/-- What is known of a computation's value, if it has one, tells that it has. -/
theorem exists_ok_of_map {ε α β : Type} {x : Except ε α} {f : α → β} {b : β}
    (h : x.toOption.map f = some b) : ∃ a, x = .ok a ∧ f a = b := by
  cases x with
  | error e => cases h
  | ok a => exact ⟨a, rfl, Option.some.inj h⟩

namespace Assembler

variable (a : Assembler) (entry : Document.Entry)

/-! ## The stages -/

/-- The template of an operation's path. -/
def templateOf : PathTemplate := .ofPath (a.hooks.path entry.path)

/-- The parameters of an operation. -/
def paramsOf : RouteParams :=
  .classify a.resolver (entry.shared ++ entry.operation.parameters) (a.templateOf entry)

/-- The module of an operation. -/
def moduleOf : Option String :=
  namespaceOf a.options.modules (a.hooks.path entry.path) entry.operation.tags

/-- The name that an operation asks for. -/
def askedName : Except RunError String :=
  a.baseName entry (a.hooks.path entry.path) (a.moduleOf entry)
    (pathArgs a.resolver (a.paramsOf entry))

/-- The name that an operation gets, with the counts after it. -/
def nameOf (names : RouteNames) (base : String) : RouteName × RouteNames :=
  names.resolve (a.moduleOf entry) base

/-- The request body, moved to a component if it is to be. -/
def bodyOf (registry : Registry) (usage : String) : Extraction RequestBodyInfo :=
  extractRequestBody a.resolver registry a.options.extract usage
    (requestBody a.resolver registry entry.operation (a.paramsOf entry))

/-- The responses as they are declared. -/
def responsesOf (registry : Registry) (usage : String) : ResponseBodyInfo :=
  .ofOperation a.resolver (a.bodyOf entry registry usage).registry.known a.options.responses
    entry.operation

/-- The responses after the success was moved to a component. -/
def successOf (registry : Registry) (usage : String) : Extraction ResponseBodyInfo :=
  extractResponseBody a.resolver (a.bodyOf entry registry usage).registry a.options.extract usage
    (a.responsesOf entry registry usage)

/-- The responses after the errors were merged as well. -/
def errorOf (registry : Registry) (usage : String) : Extraction ResponseBodyInfo :=
  extractResponseError a.resolver (a.successOf entry registry usage).registry a.options.extract
    usage (a.successOf entry registry usage).value

/-- The object of query and path parameters. -/
def requestParamsOf (registry : Registry) (usage : String) :
    Extraction (Option RequestParamsInfo) :=
  a.requestParams (a.errorOf entry registry usage).registry usage (a.paramsOf entry)

/-- The bundled arguments. -/
def argsOf (registry : Registry) (usage : String) : Except ArgNameError SpecificArgs :=
  specificArgs a.resolver (a.paramsOf entry) (pathArgs a.resolver (a.paramsOf entry))
    (a.bodyOf entry registry usage).value

/-- The route, before a hook sees it. -/
def routeOf (state : RunState) (base : String) (args : SpecificArgs) : Route :=
  let name := (a.nameOf entry state.names base).1
  { id := state.nextId
    namespaceName := a.moduleOf entry
    routeName := name
    method := entry.method
    path := (a.templateOf entry).route
    routeParams := a.paramsOf entry
    pathArgs := pathArgs a.resolver (a.paramsOf entry)
    requestBody := renameBody (a.bodyOf entry state.registry name.usage).value args
    requestParams := (a.requestParamsOf entry state.registry name.usage).value
    responseBody := (a.errorOf entry state.registry name.usage).value
    specificArgs := args
    security := security a.globalSecurity entry.operation
    raw := rawInfo entry (a.moduleOf entry) }

/-- The state after an operation that asked for the name `base`. -/
def stateAfter (state : RunState) (base : String) : RunState :=
  let (name, names) := a.nameOf entry state.names base
  { registry := (a.requestParamsOf entry state.registry name.usage).registry
    names
    nextId := state.nextId + 1 }

/-! ## The body of the route -/

theorem renameBody_schema (body : RequestBodyInfo) (args : SpecificArgs) :
    (renameBody body args).schema = body.schema := by
  unfold renameBody
  split <;> rfl

theorem renameBody_type (body : RequestBodyInfo) (args : SpecificArgs) :
    (renameBody body args).type = body.type := by
  unfold renameBody
  split <;> rfl

variable (state : RunState) (base : String) (args : SpecificArgs)

theorem routeOf_requestBody_schema : (a.routeOf entry state base args).requestBody.schema
    = (a.bodyOf entry state.registry (a.nameOf entry state.names base).1.usage).value.schema :=
  renameBody_schema _ _

theorem routeOf_requestBody_type : (a.routeOf entry state base args).requestBody.type
    = (a.bodyOf entry state.registry (a.nameOf entry state.names base).1.usage).value.type :=
  renameBody_type _ _

/-! ## The whole -/

/-- An operation is given a name first and then its arguments, and each may fail; route and state
are made from the two. -/
theorem assemble_eq : ∃ notes : String → SpecificArgs → List Note,
    a.assemble state entry = (do
      let base ← a.askedName entry
      let args ← (a.argsOf entry state.registry (a.nameOf entry state.names base).1.usage).mapError
        (RunError.argName (entry.method.verb ++ " " ++ entry.path))
      return {
        route := a.hooks.route (a.routeOf entry state base args)
        state := a.stateAfter entry state base
        notes := notes base args }) :=
  ⟨_, rfl⟩

variable {a : Assembler} {entry : Document.Entry} {state : RunState} {outcome : Assembled}

/-- What a successful outcome consists of: a name and arguments could be found, and route and state
are made from them. -/
theorem assemble_ok (h : a.assemble state entry = .ok outcome) :
    ∃ base args,
      a.askedName entry = .ok base
        ∧ a.argsOf entry state.registry (a.nameOf entry state.names base).1.usage = .ok args
        ∧ outcome.route = a.hooks.route (a.routeOf entry state base args)
        ∧ outcome.state = a.stateAfter entry state base := by
  obtain ⟨notes, hassemble⟩ := a.assemble_eq entry state
  rw [hassemble] at h
  obtain ⟨base, hbase, h⟩ := bind_ok h
  obtain ⟨args, hargs, h⟩ := bind_ok h
  cases h
  exact ⟨base, args, hbase, mapError_ok hargs, rfl, rfl⟩

end Assembler

end ApiRoutes
