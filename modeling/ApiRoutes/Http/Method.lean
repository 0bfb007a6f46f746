/-!
# Request methods
-/

namespace ApiRoutes

/-- The request methods that a path may have operations for. -/
inductive Method where
  | get
  | post
  | put
  | delete
  | patch
  | options
  | head
  | trace
  deriving DecidableEq, Repr, Inhabited

namespace Method

def all : List Method := [get, post, put, delete, patch, options, head, trace]

/-- The method as a key of a path item. -/
def key : Method → String
  | get => "get"
  | post => "post"
  | put => "put"
  | delete => "delete"
  | patch => "patch"
  | options => "options"
  | head => "head"
  | trace => "trace"

/-- The method as a request names it. -/
def verb : Method → String
  | get => "GET"
  | post => "POST"
  | put => "PUT"
  | delete => "DELETE"
  | patch => "PATCH"
  | options => "OPTIONS"
  | head => "HEAD"
  | trace => "TRACE"

def ofKey? (key : String) : Option Method := all.find? (·.key = key)

end Method

end ApiRoutes
