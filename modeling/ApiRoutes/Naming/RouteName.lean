import ApiRoutes.Data.Entries
import ApiRoutes.Log

/-!
# Route names

Names are counted per module. The first route with a name keeps it; later ones get the count
appended, `getUser`, `getUser2`, `getUser3`.
-/

namespace ApiRoutes

/-- A route's name before and after repeats were numbered. -/
structure RouteName where
  /-- The name that was asked for. -/
  base : String
  /-- The name that the route goes by. -/
  usage : String
  duplicate : Bool
  deriving DecidableEq, Repr, Inhabited

/-- How often each name was given out, under the module and the name with a bar between them. -/
structure RouteNames where
  counts : Entries Nat := []
  deriving DecidableEq, Repr, Inhabited

namespace RouteNames

/-- The key under which a name is counted. -/
def countKey (module : Option String) (name : String) : String := module.getD "" ++ "|" ++ name

/-- How often a name was given out. -/
def count (names : RouteNames) (module : Option String) (name : String) : Nat :=
  (names.counts.find? (countKey module name)).getD 0

/-- The name of the `n`th route with a name. -/
def numbered (name : String) (n : Nat) : RouteName :=
  if n ≤ 1 then ⟨name, name, false⟩ else ⟨name, name ++ Nat.repr n, true⟩

def resolve (names : RouteNames) (module : Option String) (name : String) : RouteName × RouteNames :=
  let n := names.count module name + 1
  (numbered name n, ⟨names.counts.insert (countKey module name) n⟩)

/-- The warning for a name that had to be numbered. -/
def notes (module : Option String) (name : RouteName) : List Note :=
  if name.duplicate then
    [.warn ("route name `" ++ name.base ++ "` already used in module `" ++ module.getD "" ++
      "`, renamed to `" ++ name.usage ++ "`")]
  else []

end RouteNames

end ApiRoutes
