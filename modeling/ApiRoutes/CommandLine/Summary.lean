import ApiRoutes.Route.Write

/-!
# Summaries

A short view of a document's routes: of each route its name, address and types, of each module its
name and the names of its routes. The entries of every record are in the order of their keys.
-/

namespace ApiRoutes

open Content (ofFields ofText?)

/-- Data with the entries of every record in the order of their keys. -/
def Content.sorted (data : Content) : Content := data.freeForm?.getD .null

def Route.summary (route : Route) : Content :=
  ofFields [("name", .text route.routeName.usage), ("method", .text route.method.verb),
    ("path", .text route.path), ("namespace", ofText? route.namespaceName),
    ("args", .texts route.specificArgs.names), ("success", .text route.responseBody.success.type),
    ("error", .text route.responseBody.error.type), ("security", .bool route.security)]

def RouteSet.moduleSummary (set : RouteSet) (module : RouteModule) : Content :=
  ofFields [("name", .text module.name),
    ("routes", .texts ((set.moduleRoutes module).map (·.routeName.usage)))]

def RouteSet.summary (set : RouteSet) : Content :=
  Content.sorted (ofFields [
    ("info", ofFields [("title", .text set.info.title), ("version", .text set.info.version)]),
    ("routes", .list (set.routes.map Route.summary)),
    ("modules", .list (set.modules.map set.moduleSummary)),
    ("components", .texts (set.components.map (·.typeName)))])

/-- All that is known of the routes of a document. -/
def RouteSet.details (set : RouteSet) : Content := Content.sorted set.write

end ApiRoutes
