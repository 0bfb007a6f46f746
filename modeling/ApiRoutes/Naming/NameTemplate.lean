import ApiRoutes.Template.Eval
import ApiRoutes.Template.Parse

/-!
# Names from templates

A route's name is rendered from a template that sees the operation. Without one of its own a run uses
the built-in template: the operation's id in camel casing where the strategy takes it and there is
one, else the name made from method and path.
-/

namespace ApiRoutes

/-- How routes are named by the built-in template. -/
inductive NamingStrategy where
  | useOperationId
  | useRouteBased
  deriving DecidableEq, Repr, Inhabited

def NamingStrategy.name : NamingStrategy → String
  | useOperationId => "use_operation_id"
  | useRouteBased => "use_route_based"

/-- What a template sees of an operation. -/
structure NameContext where
  operationId : Option String
  method : String
  path : String
  moduleName : Option String
  tags : List String
  summary : Option String
  description : Option String
  pathArgs : List String
  strategy : NamingStrategy
  routeBasedName : String
  deriving DecidableEq, Repr, Inhabited

namespace NameContext

def ofText? : Option String → Template.Value
  | some s => .text s
  | none => .none

def ofTexts (items : List String) : Template.Value := .list (items.map .text)

def scope (context : NameContext) : Template.Scope :=
  [("operation_id", ofText? context.operationId), ("method", .text context.method),
    ("path", .text context.path), ("module_name", ofText? context.moduleName),
    ("tags", ofTexts context.tags), ("summary", ofText? context.summary),
    ("description", ofText? context.description), ("path_args", ofTexts context.pathArgs),
    ("strategy", .text context.strategy.name), ("route_based_name", .text context.routeBasedName)]

end NameContext

structure NameTemplate where
  body : List Template.Stmt
  deriving Inhabited

namespace NameTemplate

def builtIn : NameTemplate :=
  ⟨[.branch
      (.and (.compare (.var "strategy") [(.eq, .const (.text "use_operation_id"))])
        (.var "operation_id"))
      [.output (.filter "camel_case" (.var "operation_id") [] [])]
      [.output (.var "route_based_name")]]⟩

def ofSource (source : String) : Except Template.Error NameTemplate :=
  (Template.parse source).map NameTemplate.mk

/-- The template of a run: the given one, or else the built-in one. -/
def ofOption : Option String → Except Template.Error NameTemplate
  | some source => ofSource source
  | none => .ok builtIn

/-- The name that a template gives, without blanks around it. -/
def render (template : NameTemplate) (context : NameContext) : Except Template.Error String :=
  (Template.render context.scope template.body).map Text.trimmed

end NameTemplate

end ApiRoutes
