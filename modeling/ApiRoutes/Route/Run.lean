import ApiRoutes.Route.Assemble
import ApiRoutes.Route.Grouping

/-!
# Runs

A run makes the routes of all operations of a document in order and groups them into modules. It
starts with the document's own named schemas and without any counts, so that it depends on nothing
but the document and the settings.
-/

namespace ApiRoutes

/-- The routes made so far, in order, with the state and the notes. -/
structure Progress where
  routes : List Route := []
  state : RunState
  notes : List Note := []

/-- A run over a document: its routes and its notes. -/
structure RunResult where
  routes : RouteSet
  notes : List Note

/-- Makes the route of one more operation. -/
def Progress.advance (a : Assembler) (progress : Progress) (entry : Document.Entry) :
    Except RunError Progress := do
  let outcome ← a.assemble progress.state entry
  return {
    routes := progress.routes ++ outcome.route.toList
    state := outcome.state
    notes := progress.notes ++ outcome.notes }

/-- Makes the routes of several operations in order. -/
def Progress.advanceAll (a : Assembler) (progress : Progress) (entries : List Document.Entry) :
    Except RunError Progress :=
  entries.foldlM (Progress.advance a) progress

def Progress.start (a : Assembler) : Progress :=
  { state := { registry := .ofResolver a.resolver } }

/-- What the routes of a run share. A resolver that is given takes the place of the document's own. -/
def Assembler.ofDocument (doc : Document) (options : RouteOptions) (hooks : RouteHooks)
    (resolver : Option Resolver) : Except RunError Assembler := do
  let template ← (NameTemplate.ofOption options.nameTemplate).mapError RunError.template
  return {
    resolver := resolver.getD (.ofDocument doc options.affixes)
    hooks
    options
    template
    globalSecurity := doc.hasGlobalSecurity }

/-- The routes of a finished run, grouped. -/
def Progress.finish (progress : Progress) (doc : Document) (options : RouteOptions) : RunResult :=
  let (routes, groups) := RouteGroups.group options.modules progress.routes
  let components := progress.state.registry.created
  { routes := { info := doc.info, routes, modules := groups.modules,
                outOfModule := groups.outOfModule, components }
    notes := progress.notes ++ RouteGroups.notes progress.routes ++
      [.info ("built " ++ Nat.repr routes.length ++ " routes in " ++
        Nat.repr groups.modules.length ++ " modules, " ++ Nat.repr components.length ++
        " components extracted")] }

/-- A run over a document with hooks and perhaps a resolver of its own. -/
def runWith (doc : Document) (options : RouteOptions) (hooks : RouteHooks)
    (resolver : Option Resolver) : Except RunError RunResult := do
  let a ← Assembler.ofDocument doc options hooks resolver
  return (← (Progress.start a).advanceAll a doc.operations).finish doc options

def run (doc : Document) (options : RouteOptions) : Except RunError RunResult :=
  runWith doc options .none none

end ApiRoutes
