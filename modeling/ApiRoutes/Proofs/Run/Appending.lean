import ApiRoutes.Proofs.Naming.Numbering
import ApiRoutes.Proofs.Types.Growth

/-!
# Documents with more paths

The routes of a document do not depend on paths that come later. A run over a document with more
paths at its end begins with the run over the shorter document, step for step, and what a run has
made it only adds to. The grouping at the end, which looks at all routes at once, could still change
an earlier one; but it restores no name, for as long as no route is dropped (`routes_finish`).

`run_of_longer` sums this up.
-/

namespace ApiRoutes

variable {doc longer : Document} {options : RouteOptions}

theorem Document.operations_of_append {more : Entries PathItem}
    (hpaths : longer.paths = doc.paths ++ more) :
    ∃ further, longer.operations = doc.operations ++ further := by
  unfold Document.operations
  rw [hpaths, List.flatMap_append]
  exact ⟨_, rfl⟩

/-- What the routes of a run share does not depend on the paths of the document. -/
theorem Assembler.ofDocument_congr (hsecurity : longer.security = doc.security)
    (hcomponents : longer.components = doc.components) :
    ofDocument longer options .none none = ofDocument doc options .none none := by
  refine ofDocument_eq_of_parts ?_ ?_
  · unfold Document.parts
    rw [hcomponents]
  · unfold Document.hasGlobalSecurity
    rw [hsecurity]

/-- **More paths.** If a run over a document with further paths at its end succeeds, then so does
the run over the document without them. The routes of the shorter document are the first routes of
the longer one, with the same numbers and names, and its components are the first components. -/
theorem run_of_longer {more : Entries PathItem} {result : RunResult}
    (hsecurity : longer.security = doc.security)
    (hcomponents : longer.components = doc.components)
    (hpaths : longer.paths = doc.paths ++ more) (h : run longer options = .ok result) :
    ∃ shorter, run doc options = .ok shorter
      ∧ shorter.routes.routes <+: result.routes.routes
      ∧ shorter.routes.components <+: result.routes.components := by
  obtain ⟨template, progress, ha, hprogress, rfl⟩ := run_ok h
  rw [Assembler.ofDocument_congr hsecurity hcomponents] at ha
  obtain ⟨further, hoperations⟩ := Document.operations_of_append hpaths
  have hrouted := routes_finish rfl hprogress longer options
  rw [hoperations] at hprogress
  obtain ⟨middle, hmiddle, hrest⟩ := Progress.advanceAll_append hprogress
  refine ⟨middle.finish doc options, run_of_advanceAll ha hmiddle, ?_, ?_⟩
  · rw [routes_finish rfl hmiddle, hrouted]
    exact Progress.prefix_of_advanceAll hrest
  · exact (Progress.hoists_advanceAll hrest).prefix_created

/-- Two operations with the same name, the second of which is on a path that comes later. Both have
a body that is moved to a component. -/
def ordersDocument (paths : List String) : Document :=
  { openapi := "3.0.0"
    info := { title := "Orders", version := "1" }
    paths := paths.map fun path => (path, { operations := [
      (.post, {
        operationId := some "placeOrder"
        requestBody := some (.inline {
          content := [("application/json", { schema := some (.inline
            (.object [(path, .inline .string)] [])) })] }) })] }) }

/-- The first order is as it was before a second one came. -/
theorem run_of_longer_orders : ∃ shorter result,
    run (ordersDocument ["/orders", "/orders/express"]) { extract := { requestBody := true } }
        = .ok result
      ∧ run (ordersDocument ["/orders"]) { extract := { requestBody := true } } = .ok shorter
      ∧ shorter.routes.routes <+: result.routes.routes
      ∧ shorter.routes.components <+: result.routes.components
      ∧ result.routes.routes.map (fun route => (route.id, route.routeName.usage))
        = [(1, "placeOrder"), (2, "placeOrder2")]
      ∧ result.routes.components.map (·.typeName)
        = ["PlaceOrderPayload", "PlaceOrder2Payload"] := by
  obtain ⟨result, hrun, hmade⟩ := exists_ok_of_map
    (show (run (ordersDocument ["/orders", "/orders/express"])
        { extract := { requestBody := true } }).toOption.map (fun result =>
          (result.routes.routes.map fun route => (route.id, route.routeName.usage),
            result.routes.components.map (·.typeName)))
      = some ([(1, "placeOrder"), (2, "placeOrder2")],
          ["PlaceOrderPayload", "PlaceOrder2Payload"]) by decide +kernel)
  obtain ⟨hroutes, hcomponents⟩ := Prod.mk.inj hmade
  obtain ⟨shorter, hshorter, hfirst, hcreated⟩ :=
    run_of_longer (show (ordersDocument ["/orders", "/orders/express"]).security
      = (ordersDocument ["/orders"]).security from rfl) rfl rfl hrun
  exact ⟨shorter, result, hrun, hshorter, hfirst, hcreated, hroutes, hcomponents⟩

end ApiRoutes
