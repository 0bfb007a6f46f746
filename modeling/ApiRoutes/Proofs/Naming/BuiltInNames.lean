import ApiRoutes.Proofs.Naming.Numbering
import ApiRoutes.Proofs.Text.Blanks

/-!
# Names from the built-in template

The built-in template takes an operation's id in camel casing, or else the name made from method and
path, and what it shows is trimmed (`render_builtIn`).

- **A name made from method and path** begins with a verb, so something is left of it
  (`trimmed_pathName_ne_empty`).
- **An operation's id** may be any text. The template asks whether it is empty, but not whether
  anything is left of it in camel casing.

So a run without a template and aliases names a route with the empty text exactly when it takes an
id without letters and digits (`base_eq_empty_iff`). Elsewhere such texts become the name `unnamed`
(`identifierWords`).
-/

namespace ApiRoutes

open NameTemplate (builtIn)
open Template (Expr Scope Stmt Value)
open Text (IsWordless lowerCamelCase trimmed)

/-! ## The built-in template -/

/-- The id of an operation, if the built-in template takes it as a name. -/
def NamingStrategy.takenId? (strategy : NamingStrategy) (operationId : Option String) :
    Option String :=
  match strategy with
  | .useOperationId => operationId.filter (· ≠ "")
  | .useRouteBased => none

theorem takenId?_eq_some_iff {strategy : NamingStrategy} {operationId : Option String}
    {id : String} : strategy.takenId? operationId = some id ↔
      strategy = .useOperationId ∧ operationId = some id ∧ id ≠ "" := by
  unfold NamingStrategy.takenId?
  cases strategy <;> simp [Option.filter_eq_some_iff]

section

variable {scope : Scope}

theorem eval_var_eq (name s t : String) (h : scope.value name = .text s) :
    Expr.eval scope (.compare (.var name) [(.eq, .const (.text t))]) = .ok (.bool (s == t)) := by
  have hsteps : Expr.evalSteps scope (.text s) [(.eq, .const (.text t))] = .ok (s == t) := by
    have hequal : (Value.text s).equal (.text t) = (s == t) := by
      simp [Value.equal, Value.equalPlain]
    simp only [Expr.evalSteps, Expr.eval, Value.compares, hequal, bind, Except.bind]
    cases s == t <;> rfl
  simp only [Expr.eval, h, bind, Except.bind, hsteps]
  rfl

theorem eval_and {a b : Expr} {left : Value} (h : a.eval scope = .ok left) :
    (Expr.and a b).eval scope = if left.isTrue then b.eval scope else .ok left := by
  rw [Expr.eval, h]
  rfl

theorem eval_camel_case {name s : String} (h : scope.value name = .text s) :
    Expr.eval scope (.filter "camel_case" (.var name) [] []) = .ok (.text (lowerCamelCase s)) := by
  simp only [Expr.eval, Expr.evalAll, Expr.evalNamed, h]
  rfl

theorem renderAll_output (e : Expr) : Stmt.renderAll scope [.output e]
    = (e.eval scope).map fun value => (value.display, scope) := by
  rw [Stmt.renderAll, Stmt.render]
  cases e.eval scope with
  | error error => rfl
  | ok value =>
      show Except.ok (value.display ++ "", scope) = _
      rw [String.append_empty]
      rfl

/-- A choice of two expressions shows the one that its condition asks for. -/
theorem render_branch {condition yes no : Expr} {chosen : Value}
    (h : condition.eval scope = .ok chosen) :
    Template.render scope [.branch condition [.output yes] [.output no]]
      = ((if chosen.isTrue then yes else no).eval scope).map Value.display := by
  have hchosen : Stmt.render scope (.branch condition [.output yes] [.output no])
      = Stmt.renderAll scope [.output (if chosen.isTrue then yes else no)] := by
    rw [Stmt.render, h]
    show (if chosen.isTrue then _ else _) = _
    split <;> rfl
  rw [Template.render, Stmt.renderAll, hchosen, renderAll_output]
  cases Expr.eval scope (if chosen.isTrue then yes else no) with
  | error error => rfl
  | ok value =>
      show Except.ok (value.display ++ "") = _
      rw [String.append_empty]
      rfl

end

/-- What the built-in template asks is whether it takes the operation's id. -/
theorem eval_condition (context : NameContext) : ∃ chosen,
    Expr.eval context.scope
        (.and (.compare (.var "strategy") [(.eq, .const (.text "use_operation_id"))])
          (.var "operation_id")) = .ok chosen
      ∧ chosen.isTrue = (context.strategy.takenId? context.operationId).isSome := by
  have hstrategy : context.scope.value "strategy" = .text context.strategy.name := rfl
  rw [eval_and (eval_var_eq _ _ "use_operation_id" hstrategy)]
  unfold NamingStrategy.takenId?
  cases context.strategy with
  | useRouteBased => exact ⟨.bool false, rfl, rfl⟩
  | useOperationId =>
      refine ⟨NameContext.ofText? context.operationId, rfl, ?_⟩
      cases context.operationId with
      | none => rfl
      | some id => by_cases hempty : id = "" <;> simp [NameContext.ofText?, Value.isTrue, hempty]

/-- The name that the built-in template gives. -/
theorem render_builtIn (context : NameContext) : builtIn.render context
    = .ok (trimmed (((context.strategy.takenId? context.operationId).map lowerCamelCase).getD
        context.routeBasedName)) := by
  obtain ⟨chosen, hcondition, hchosen⟩ := eval_condition context
  have hshown : Template.render context.scope builtIn.body
      = .ok (((context.strategy.takenId? context.operationId).map lowerCamelCase).getD
          context.routeBasedName) := by
    rw [builtIn, render_branch hcondition, hchosen]
    cases htaken : context.strategy.takenId? context.operationId with
    | none => rfl
    | some id =>
        obtain ⟨-, hid, -⟩ := takenId?_eq_some_iff.mp htaken
        have hvalue : context.scope.value "operation_id" = .text id :=
          congrArg NameContext.ofText? hid
        exact congrArg (Except.map Value.display) (eval_camel_case hvalue)
  rw [NameTemplate.render, hshown]
  rfl

/-! ## Names from method and path -/

theorem exists_verb (method : Method) (single : Bool) :
    ∃ verb, methodVerb? method.verb single = some verb ∧ trimmed verb ≠ "" := by
  have hleft : ((methodVerb? method.verb single).map trimmed).getD "" ≠ "" := by
    cases method <;> cases single <;> decide +kernel
  cases hverb : methodVerb? method.verb single with
  | none => simp [hverb] at hleft
  | some verb => exact ⟨verb, rfl, by simpa [hverb] using hleft⟩

/-- Something is left of a name that is made from method and path. -/
theorem trimmed_pathName_ne_empty (method : Method) (path : String) :
    trimmed (pathName method.verb path) ≠ "" := by
  unfold pathName
  extract_lets segments single
  obtain ⟨verb, hverb, hleft⟩ := exists_verb method single
  rw [hverb]
  intro hempty
  refine hleft (Text.trimmed_eq_empty_iff.mpr fun c hc => ?_)
  refine Text.trimmed_eq_empty_iff.mp hempty c ?_
  rw [String.toList_append]
  exact List.mem_append_left _ hc

/-! ## Names of routes -/

/-- The name of a route, without a template and aliases. -/
def builtInName (strategy : NamingStrategy) (operationId : Option String) (method : Method)
    (path : String) : String :=
  trimmed (((strategy.takenId? operationId).map lowerCamelCase).getD (pathName method.verb path))

theorem builtInName_eq_empty_iff {strategy : NamingStrategy} {operationId : Option String}
    {method : Method} {path : String} : builtInName strategy operationId method path = "" ↔
      ∃ id, strategy.takenId? operationId = some id ∧ IsWordless id := by
  unfold builtInName
  cases htaken : strategy.takenId? operationId with
  | none => simpa using trimmed_pathName_ne_empty method path
  | some id => simpa using Text.trimmed_lowerCamelCase_eq_empty_iff

theorem template_eq_builtIn {doc : Document} {options : RouteOptions} {template : NameTemplate}
    (h : Assembler.ofDocument doc options .none none = .ok (.plain doc options template))
    (hnone : options.nameTemplate = none) : template = builtIn := by
  rw [Assembler.ofDocument, hnone] at h
  injection h with h
  exact (congrArg Assembler.template h).symm

theorem askedName_builtIn {doc : Document} {options : RouteOptions} {entry : Document.Entry}
    {base : String} (haliases : options.aliases = [])
    (h : (Assembler.plain doc options builtIn).askedName entry = .ok base) :
    base = builtInName options.namingStrategy entry.operation.operationId entry.method
      entry.path := by
  unfold Assembler.askedName Assembler.baseName at h
  obtain ⟨rendered, hrendered, hbase⟩ := bind_ok h
  have hname := (render_builtIn _).symm.trans (mapError_ok hrendered)
  -- no alias replaces the name, and the default hook keeps it
  have hkept : rendered = base := by
    rw [Assembler.plain, haliases] at hbase
    exact Except.ok.inj hbase
  exact ((Except.ok.inj hname).trans hkept).symm

/-- Each route of a run without a template and aliases has the name that the built-in template
gives. -/
theorem base_of_run {doc : Document} {options : RouteOptions} {result : RunResult}
    (h : run doc options = .ok result) (htemplate : options.nameTemplate = none)
    (haliases : options.aliases = []) :
    ∀ route ∈ result.routes.routes, route.routeName.base =
      builtInName options.namingStrategy route.raw.operationId route.method
        route.raw.declaredPath := by
  obtain ⟨template, progress, ha, hprogress, hroutes, -⟩ := routes_of_run h
  obtain rfl := template_eq_builtIn ha htemplate
  rw [hroutes]
  intro route hroute
  obtain ⟨entry, -, state, base, args, hasked, -, rfl⟩ :=
    Progress.exists_of_mem_routes rfl hprogress route hroute
  exact (numbered_base _ _).trans (askedName_builtIn haliases hasked)

/-- **Empty names.** A run without a template and aliases names a route with the empty text exactly
when it names routes by their ids and the route's id has neither letters nor digits, but is not
empty. -/
theorem base_eq_empty_iff {doc : Document} {options : RouteOptions} {result : RunResult}
    (h : run doc options = .ok result) (htemplate : options.nameTemplate = none)
    (haliases : options.aliases = []) :
    ∀ route ∈ result.routes.routes, route.routeName.base = "" ↔
      options.namingStrategy = .useOperationId
        ∧ ∃ id, route.raw.operationId = some id ∧ id ≠ "" ∧ IsWordless id := by
  intro route hroute
  rw [base_of_run h htemplate haliases route hroute, builtInName_eq_empty_iff]
  simp only [takenId?_eq_some_iff, and_assoc, exists_and_left]

/-- Three operations on pets: one with a dash for an id, one with an id of two words, one without
an id. -/
def dashDocument : Document :=
  { openapi := "3.0.0"
    info := { title := "Pets", version := "1" }
    paths := [("/pets", { operations := [
      (.get, { operationId := some "-" }), (.post, { operationId := some "add-pet" }),
      (.delete, {})] })] }

theorem base_empty_dash : ∃ result, run dashDocument {} = .ok result
    ∧ result.routes.routes.map (·.routeName.base) = ["", "addPet", "deletePets"]
    ∧ ∀ route ∈ result.routes.routes, route.routeName.base = "" ↔
      ∃ id, route.raw.operationId = some id ∧ id ≠ "" ∧ IsWordless id := by
  obtain ⟨result, hrun, hbases⟩ := exists_ok_of_map
    (show (run dashDocument {}).toOption.map (fun result =>
        result.routes.routes.map (·.routeName.base)) = some ["", "addPet", "deletePets"] by
      decide +kernel)
  exact ⟨result, hrun, hbases, fun route hroute =>
    (base_eq_empty_iff hrun rfl rfl route hroute).trans (and_iff_right rfl)⟩

end ApiRoutes
