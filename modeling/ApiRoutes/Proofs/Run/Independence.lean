import ApiRoutes.Proofs.Run.Appending

/-!
# Operations that do not see each other

The operations of a run share a registry of named schemas, counts of names and a counter. Each stage
of an operation reads one of them at most, and the registry changes only where a schema is moved to a
component. Where nothing is extracted the registry therefore stays as the document made it
(`registry_advanceAll`), and all of a route but its number and name is a function of the operation
and of what the whole run shares (`route_of_isOff`).

Two runs over documents that share their components then give an operation of both documents the
same route, whatever else is in the documents (`sameButName_of_run`).
-/

namespace ApiRoutes

/-- Nothing becomes a component. -/
structure ExtractOptions.IsOff (options : ExtractOptions) : Prop where
  requestBody : options.requestBody = false
  requestParams : options.requestParams = false
  responseBody : options.responseBody = false
  responseError : options.responseError = false

/-- Two routes agree on all but their numbers and names. -/
def Route.SameButName (route other : Route) : Prop :=
  { route with id := other.id, routeName := other.routeName } = other

/-! ## Stages -/

section

variable {options : ExtractOptions} (hoff : options.IsOff) (r : Resolver) (registry : Registry)
  (usage : String)
include hoff

theorem extractRequestBody_of_isOff (body : RequestBodyInfo) :
    extractRequestBody r registry options usage body = { value := body, registry } := by
  rw [extractRequestBody, hoff.requestBody]

theorem extractResponseBody_of_isOff (info : ResponseBodyInfo) :
    extractResponseBody r registry options usage info = { value := info, registry } := by
  rw [extractResponseBody, hoff.responseBody]

theorem extractResponseError_of_isOff (info : ResponseBodyInfo) :
    extractResponseError r registry options usage info = { value := info, registry } := by
  rw [extractResponseError, hoff.responseError]

theorem extractRequestParams_of_isOff (schema : Schema) :
    extractRequestParams r registry options usage schema
      = { value := { schema := .inline schema, type := r.typeExpr (.inline schema) }, registry } := by
  rw [extractRequestParams, hoff.requestParams]
  rfl

end

namespace Assembler

variable {a : Assembler} (hoff : a.options.extract.IsOff) (entry : Document.Entry)
  (registry : Registry) (usage : String)
include hoff

theorem bodyOf_of_isOff : a.bodyOf entry registry usage
    = { value := requestBody a.resolver registry entry.operation (a.paramsOf entry), registry } :=
  extractRequestBody_of_isOff hoff _ _ _ _

theorem errorOf_of_isOff : a.errorOf entry registry usage
    = { value := .ofOperation a.resolver registry.known a.options.responses entry.operation
        registry } := by
  have hsuccess : a.successOf entry registry usage
      = { value := .ofOperation a.resolver registry.known a.options.responses entry.operation
          registry } := by
    rw [successOf, responsesOf, bodyOf_of_isOff hoff, extractResponseBody_of_isOff hoff]
  rw [errorOf, hsuccess, extractResponseError_of_isOff hoff]

theorem requestParamsOf_of_isOff : a.requestParamsOf entry registry usage
    = { value := (a.paramsOf entry).requestSchema?.map fun schema =>
          let schema : OrRef Schema := .inline (a.hooks.requestParams (a.paramsOf entry) schema)
          { schema, type := a.resolver.typeExpr schema }
        registry } := by
  rw [requestParamsOf, errorOf_of_isOff hoff, requestParams]
  cases (a.paramsOf entry).requestSchema? with
  | none => rfl
  | some schema =>
      simp only [extractRequestParams_of_isOff hoff]
      rfl

/-- An operation leaves the registry as it was. -/
theorem registry_stateAfter (state : RunState) (base : String) :
    (a.stateAfter entry state base).registry = state.registry :=
  congrArg Extraction.registry (requestParamsOf_of_isOff hoff entry state.registry _)

theorem argsOf_of_isOff (usage' : String) :
    a.argsOf entry registry usage = a.argsOf entry registry usage' := by
  rw [argsOf, argsOf, bodyOf_of_isOff hoff, bodyOf_of_isOff hoff]

/-- Of the counts and the counter a route takes its name and number, and no more. -/
theorem sameButName_routeOf {state other : RunState} (hregistry : state.registry = other.registry)
    (base base' : String) (args : SpecificArgs) :
    (a.routeOf entry state base args).SameButName (a.routeOf entry other base' args) := by
  unfold Route.SameButName routeOf
  simp only [bodyOf_of_isOff hoff, errorOf_of_isOff hoff, requestParamsOf_of_isOff hoff, hregistry]

end Assembler

/-! ## Runs -/

namespace Progress

variable {a : Assembler} {p q : Progress} (hhooks : a.hooks = .none)
  (hoff : a.options.extract.IsOff)
include hoff

/-- The registry stays as it is, and no component is created. -/
theorem registry_advanceAll {entries : List Document.Entry} (h : p.advanceAll a entries = .ok q) :
    q.state.registry = p.state.registry := by
  refine advanceAll_induction (motive := fun _ m => m.state.registry = p.state.registry) rfl
    (fun _ hm hstep => ?_) h
  obtain ⟨outcome, hmade, -, hstate⟩ := advance_ok hstep
  obtain ⟨base, args, -, -, -, hafter⟩ := Assembler.assemble_ok hmade
  rw [hstate, hafter, Assembler.registry_stateAfter hoff, hm]

include hhooks

/-- The route of an operation was made from the document's own schemas. -/
theorem route_of_isOff {entries : List Document.Entry} (h : (start a).advanceAll a entries = .ok q)
    {i : Nat} {entry : Document.Entry} (hi : entries[i]? = some entry) :
    ∃ state base args, state.registry = .ofResolver a.resolver
      ∧ a.argsOf entry (.ofResolver a.resolver) "" = .ok args
      ∧ q.routes[i]? = some (a.routeOf entry state base args) := by
  obtain ⟨hlt, rfl⟩ := List.getElem?_eq_some_iff.mp hi
  have hsplit : entries = entries.take i ++ entries[i] :: entries.drop (i + 1) := by
    rw [List.getElem_cons_drop, List.take_append_drop]
  rw [hsplit] at h
  obtain ⟨m, n, hm, hn, hlater⟩ := advanceAll_split h
  obtain ⟨base, args, -, hargs, -, hat⟩ := route_at hhooks hm hn (prefix_of_advanceAll hlater)
  have hregistry : m.state.registry = .ofResolver a.resolver := registry_advanceAll hoff hm
  rw [hregistry, Assembler.argsOf_of_isOff hoff _ _ _ ""] at hargs
  rw [List.length_take_of_le (Nat.le_of_lt hlt)] at hat
  exact ⟨m.state, base, args, hregistry, hargs, hat⟩

end Progress

/-- **Independence.** Let nothing be extracted. Two successful runs with default hooks, over
documents with the same components that agree on whether they ask for authentication everywhere,
create no components; and an operation of both documents, wherever it stands in them, has routes
that agree on all but their numbers and names. -/
theorem sameButName_of_run {doc other : Document} {options : RouteOptions}
    {result result' : RunResult} (hoff : options.extract.IsOff) (hparts : other.parts = doc.parts)
    (hglobal : other.hasGlobalSecurity = doc.hasGlobalSecurity)
    (h : run doc options = .ok result) (h' : run other options = .ok result') :
    result.routes.components = [] ∧ result'.routes.components = []
      ∧ ∀ (i j : Nat) (entry : Document.Entry),
        doc.operations[i]? = some entry → other.operations[j]? = some entry →
        ∃ route route' : Route, result.routes.routes[i]? = some route
          ∧ result'.routes.routes[j]? = some route' ∧ route.SameButName route' := by
  obtain ⟨template, progress, ha, hprogress, rfl⟩ := run_ok h
  obtain ⟨template', progress', ha', hprogress', rfl⟩ := run_ok h'
  -- both documents make one assembler, as it takes nothing from them but what they share
  have hshared : Assembler.plain other options template' = .plain doc options template := by
    rw [Assembler.ofDocument_eq_of_parts hparts hglobal, ha] at ha'
    exact (Except.ok.inj ha').symm
  rw [hshared] at hprogress'
  refine ⟨congrArg Registry.created (Progress.registry_advanceAll hoff hprogress),
    congrArg Registry.created (Progress.registry_advanceAll hoff hprogress'), ?_⟩
  intro i j entry hi hj
  obtain ⟨state, base, args, hregistry, hargs, hroute⟩ :=
    Progress.route_of_isOff rfl hoff hprogress hi
  obtain ⟨state', base', args', hregistry', hargs', hroute'⟩ :=
    Progress.route_of_isOff rfl hoff hprogress' hj
  obtain rfl := Except.ok.inj (hargs.symm.trans hargs')
  have hsame := Assembler.sameButName_routeOf (a := .plain doc options template) hoff entry
    (hregistry.trans hregistry'.symm) base base' args
  refine ⟨_, _, ?_, ?_, hsame⟩
  · rw [routes_finish rfl hprogress, hroute]
  · rw [routes_finish rfl hprogress', hroute']

/-- The order is the second one in the other document, and is numbered there. -/
theorem sameButName_of_orders : ∃ result result' route route',
    run (ordersDocument ["/orders"]) {} = .ok result
      ∧ run (ordersDocument ["/orders/express", "/orders"]) {} = .ok result'
      ∧ result'.routes.components = []
      ∧ result.routes.routes[0]? = some route ∧ result'.routes.routes[1]? = some route'
      ∧ route.SameButName route'
      ∧ (route.id, route.routeName.usage) = (1, "placeOrder")
      ∧ (route'.id, route'.routeName.usage) = (2, "placeOrder2") := by
  obtain ⟨result, hrun, hmade⟩ := exists_ok_of_map
    (show (run (ordersDocument ["/orders"]) {}).toOption.map (fun result =>
        result.routes.routes[0]?.map fun route => (route.id, route.routeName.usage))
      = some (some (1, "placeOrder")) by decide +kernel)
  obtain ⟨result', hrun', hmade'⟩ := exists_ok_of_map
    (show (run (ordersDocument ["/orders/express", "/orders"]) {}).toOption.map (fun result =>
        result.routes.routes[1]?.map fun route => (route.id, route.routeName.usage))
      = some (some (2, "placeOrder2")) by decide +kernel)
  have hoff : ({} : RouteOptions).extract.IsOff := ⟨rfl, rfl, rfl, rfl⟩
  have hparts : (ordersDocument ["/orders/express", "/orders"]).parts
      = (ordersDocument ["/orders"]).parts := rfl
  obtain ⟨-, hcreated, hroutes⟩ := sameButName_of_run hoff hparts rfl hrun hrun'
  obtain ⟨route, route', hroute, hroute', hsame⟩ := hroutes 0 1 _ rfl rfl
  rw [hroute] at hmade
  rw [hroute'] at hmade'
  exact ⟨result, result', route, route', hrun, hrun', hcreated, hroute, hroute', hsame,
    Option.some.inj hmade, Option.some.inj hmade'⟩

end ApiRoutes
