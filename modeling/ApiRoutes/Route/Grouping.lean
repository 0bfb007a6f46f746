import ApiRoutes.Log
import ApiRoutes.Naming.PathName
import ApiRoutes.Route.Basic

/-!
# Modules of routes

Routes with the same namespace form a module; modules come in the order of their first route. A route
whose name was numbered gets its base name back if no other route of its module has it.
-/

namespace ApiRoutes

/-- The modules of a route list, and the positions of the routes without one. -/
structure RouteGroups where
  modules : List RouteModule
  outOfModule : List Nat
  deriving DecidableEq, Repr, Inhabited

namespace RouteGroups

def namespaces (routes : List Route) : List String :=
  Text.distinct (routes.filterMap (·.namespaceName))

def positions (routes : List Route) (namespaceName : Option String) : List Nat :=
  (List.range routes.length).filter fun i => routes[i]?.map (·.namespaceName) = some namespaceName

/-- Whether a numbered route gets its base name back: its module has other routes, none of which
has the same base name. -/
def regainsName (routes : List Route) (index : Nat) (route : Route) : Bool :=
  match route.namespaceName with
  | none => false
  | some name =>
    let others := (positions routes (some name)).filter (· ≠ index)
    route.routeName.usage ≠ route.routeName.base && !others.isEmpty &&
      !others.any fun i =>
        routes[i]?.map (·.routeName.base) = some route.routeName.base

def restoreNames (routes : List Route) : List Route :=
  routes.zipIdx.map fun (route, index) =>
    if regainsName routes index route then
      { route with routeName := { route.routeName with usage := route.routeName.base } }
    else route

/-- Inserts a position into a list that is ordered by names, after those with an equal name. -/
def insertByName (routes : List Route) (index : Nat) : List Nat → List Nat
  | [] => [index]
  | i :: rest =>
    if (routes[index]?.map (·.routeName.usage)).getD "" < (routes[i]?.map (·.routeName.usage)).getD ""
    then index :: i :: rest
    else i :: insertByName routes index rest

/-- Positions ordered by the names of their routes; those with one name keep their order. -/
def sortByName (routes : List Route) (indices : List Nat) : List Nat :=
  indices.foldl (fun sorted index => insertByName routes index sorted) []

/-- The modules of routes whose names are final. -/
def ofRoutes (options : ModuleOptions) (routes : List Route) : RouteGroups :=
  { modules := (namespaces routes).map fun name =>
      let indices := positions routes (some name)
      ⟨name, if options.sortRoutes then sortByName routes indices else indices⟩
    outOfModule := positions routes none }

/-- The routes with their final names, and their modules. -/
def group (options : ModuleOptions) (routes : List Route) : List Route × RouteGroups :=
  let routes := restoreNames routes
  (routes, ofRoutes options routes)

/-- A note for each route that regains its name, module by module. -/
def notes (routes : List Route) : List Note :=
  (namespaces routes).flatMap fun name =>
    (positions routes (some name)).flatMap fun index =>
      match routes[index]? with
      | some route =>
        if regainsName routes index route then
          [.debug ("restoring route name " ++ route.routeName.base ++ " (was " ++
            route.routeName.usage ++ ")")]
        else []
      | none => []

end RouteGroups

end ApiRoutes
