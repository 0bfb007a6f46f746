import ApiRoutes.Template.Filters
import ApiRoutes.Template.Syntax

/-!
# Rendering templates

Expressions are evaluated with the names that are in scope; a name without a value is undefined.
Statements are rendered in order; what a statement assigns is in scope for those after it, up to the
end of the loop or scope it stands in. The rounds of a loop share one scope.
-/

namespace ApiRoutes.Template

/-- The names in scope, the innermost first. -/
abbrev Scope := List (String × Value)

def Scope.value (scope : Scope) (name : String) : Value := (scope.lookup name).getD .undefined

/-- The arguments of a call: values by position, and last all that is given by name. -/
def arguments (args : List Value) (named : List (Value × Value)) : List Argument :=
  args.map .value ++ (if named.isEmpty then [] else [.named named])

mutual

def Expr.eval (scope : Scope) : Expr → Except Error Value
  | .const value => .ok value
  | .var name => .ok (scope.value name)
  | .list items => (Expr.evalAll scope items).map .list
  | .table entries => (Expr.evalEntries scope entries).map .ofEntries
  | .not e => do return .bool (!(← e.eval scope).isTrue)
  | .neg e => do (← e.eval scope).negate
  | .and a b => do
    let left ← a.eval scope
    if left.isTrue then b.eval scope else return left
  | .or a b => do
    let left ← a.eval scope
    if left.isTrue then return left else b.eval scope
  | .op operator a b => do
    let left ← a.eval scope
    let right ← b.eval scope
    Value.apply operator left right
  | .compare e steps => do return .bool (← Expr.evalSteps scope (← e.eval scope) steps)
  | .choose condition yes no => do
    if (← condition.eval scope).isTrue then yes.eval scope else Expr.evalOption scope no
  | .get e key => do
    let value ← e.eval scope
    value.get (← key.eval scope)
  | .slice e start stop step => do
    let value ← e.eval scope
    let start ← start.eval scope
    let stop ← stop.eval scope
    value.slice start stop (← step.eval scope)
  | .filter name e args named => do
    let value ← e.eval scope
    let args ← Expr.evalAll scope args
    value.filter name (arguments args (← Expr.evalNamed scope named))
  | .test name e args named => do
    let value ← e.eval scope
    let args ← Expr.evalAll scope args
    return .bool (← value.test name (arguments args (← Expr.evalNamed scope named)))
  | .call (.var name) args named => do
    let _ ← Expr.evalAll scope args
    let _ ← Expr.evalNamed scope named
    match scope.value name with
    | .undefined => throw .unknownFunction
    | _ => throw .invalidOperation
  | .call _ args named => do
    let _ ← Expr.evalAll scope args
    let _ ← Expr.evalNamed scope named
    throw .invalidOperation
  | .method e _ args named => do
    let _ ← e.eval scope
    let _ ← Expr.evalAll scope args
    let _ ← Expr.evalNamed scope named
    throw .unknownMethod

def Expr.evalAll (scope : Scope) : List Expr → Except Error (List Value)
  | [] => .ok []
  | e :: rest => do
    let value ← e.eval scope
    return value :: (← Expr.evalAll scope rest)

def Expr.evalNamed (scope : Scope) : List (String × Expr) → Except Error (List (Value × Value))
  | [] => .ok []
  | (name, e) :: rest => do
    let value ← e.eval scope
    return (.text name, value) :: (← Expr.evalNamed scope rest)

def Expr.evalEntries (scope : Scope) : List (Expr × Expr) → Except Error (List (Value × Value))
  | [] => .ok []
  | (k, v) :: rest => do
    let key ← k.eval scope
    let value ← v.eval scope
    return (key, value) :: (← Expr.evalEntries scope rest)

/-- Whether a value compares with the next one, that one with the one after it, and so on. What comes
after the first comparison that fails is not evaluated. -/
def Expr.evalSteps (scope : Scope) (left : Value) :
    List (Value.Comparison × Expr) → Except Error Bool
  | [] => .ok true
  | (comparison, e) :: rest => do
    let right ← e.eval scope
    if ← left.compares comparison right then Expr.evalSteps scope right rest else return false

/-- The value of an expression that may be missing. -/
def Expr.evalOption (scope : Scope) : Option Expr → Except Error Value
  | none => .ok .undefined
  | some e => e.eval scope

end

mutual

/-- The names that get values when a value is assigned to a target. Everything that contains values
can be taken apart: a table into its keys. -/
def Target.bind (scope : Scope) : Target → Value → Except Error Scope
  | .name text, value => .ok [(text, value)]
  | .items targets, value =>
    match value.contents? with
    | some values =>
      if values.length = targets.length then Target.bindAll scope targets values
      else .error .cannotUnpack
    | none => .error .cannotUnpack
  | .member holder, _ => do
    let _ ← holder.eval scope
    throw .invalidOperation

/-- The names that get values when several values are assigned to as many targets. -/
def Target.bindAll (scope : Scope) : List Target → List Value → Except Error Scope
  | target :: targets, value :: values => do
    let first ← target.bind scope value
    return (← Target.bindAll scope targets values) ++ first
  | _, _ => .ok []

end

/-- What a loop knows of the item at a position. -/
def loopValue (items : List Value) (index : Nat) : Value :=
  let count (name : String) (n : Nat) : Value × Value := (.text name, .ofNat n)
  .ofEntries [
    count "index0" index, count "index" (index + 1), count "length" items.length,
    count "revindex" (items.length - index), count "revindex0" (items.length - index - 1),
    count "depth" 1, count "depth0" 0, (.text "first", .bool (index == 0)),
    (.text "last", .bool (index + 1 == items.length)),
    (.text "previtem", if index = 0 then .undefined else items.getD (index - 1) .undefined),
    (.text "nextitem", items.getD (index + 1) .undefined)]

def applyFilters (scope : Scope) (filters : List FilterCall) (value : Value) : Except Error Value :=
  filters.foldlM (fun value call => do
    let args ← Expr.evalAll scope call.args
    value.filter call.name (arguments args (← Expr.evalNamed scope call.named))) value

/-- The items of a loop that pass its condition. -/
def loopItems (scope : Scope) (target : Target) (condition : Option Expr) (items : List Value) :
    Except Error (List Value) :=
  match condition with
  | none => .ok items
  | some condition => items.filterM fun item => do
    return (← condition.eval ((← target.bind scope item) ++ scope)).isTrue

mutual

/-- What a statement shows, and the names in scope after it. -/
def Stmt.render (scope : Scope) : Stmt → Except Error (String × Scope)
  | .text s => .ok (s, scope)
  | .output e => do return ((← e.eval scope).display, scope)
  | .branch condition yes no => do
    if (← condition.eval scope).isTrue then Stmt.renderAll scope yes else Stmt.renderAll scope no
  | .loop target list condition body empty => do
    let items ← loopItems scope target condition (← (← list.eval scope).iterate)
    if items.isEmpty then Stmt.renderAll scope empty
    else
      let run (scope : Scope) : Except Error (String × Scope) := Stmt.renderAll scope body
      let (shown, _) ← items.zipIdx.foldlM (fun (shown, inner) (item, index) => do
        let names ← target.bind inner item
        let (more, inner) ← run (names ++ ("loop", loopValue items index) :: inner)
        return (shown ++ more, inner)) ("", scope)
      return (shown, scope)
  | .assign target e => do
    let names ← target.bind scope (← e.eval scope)
    return ("", names ++ scope)
  | .capture target filters body => do
    let (shown, scope) ← Stmt.renderAll scope body
    let names ← target.bind scope (← applyFilters scope filters (.text shown))
    return ("", names ++ scope)
  | .scope assignments body => do
    let inner ← assignments.foldlM (fun inner (target, e) => do
      return (← target.bind inner (← e.eval inner)) ++ inner) scope
    return ((← Stmt.renderAll inner body).1, scope)
  | .group body => Stmt.renderAll scope body
  | .filtered filters body => do
    let (shown, scope) ← Stmt.renderAll scope body
    return ((← applyFilters scope filters (.text shown)).display, scope)
  | .include name ignoreMissing => do
    let _ ← name.eval scope
    if ignoreMissing then return ("", scope) else throw .templateNotFound
  | .extends name => do
    let _ ← name.eval scope
    throw .templateNotFound
  | .evaluate e => do
    let _ ← e.eval scope
    return ("", scope)

/-- What several statements show one after the other, and the names in scope after them. -/
def Stmt.renderAll (scope : Scope) : List Stmt → Except Error (String × Scope)
  | [] => .ok ("", scope)
  | stmt :: rest => do
    let (shown, scope) ← stmt.render scope
    let (more, scope) ← Stmt.renderAll scope rest
    return (shown ++ more, scope)

end

/-- What a template shows with the given names. -/
def render (scope : Scope) (template : List Stmt) : Except Error String :=
  (Stmt.renderAll scope template).map Prod.fst

end ApiRoutes.Template
