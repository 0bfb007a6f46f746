import ApiRoutes.Route.Basic

/-!
# Hooks

Four points at which the making of routes can be changed. The default hooks change nothing.
-/

namespace ApiRoutes

/-- What is done at each of the points. -/
structure RouteHooks where
  /-- Changes a path before its template is read. -/
  path : String → String := id
  /-- Changes a name after templates and aliases. -/
  name : RawRouteInfo → String → String := fun _ name => name
  /-- Changes the schema of query and path parameters. -/
  requestParams : RouteParams → Schema → Schema := fun _ schema => schema
  /-- Changes a finished route, or drops it. -/
  route : Route → Option Route := some

def RouteHooks.none : RouteHooks := {}

end ApiRoutes
