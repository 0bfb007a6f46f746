import ApiRoutes.Proofs.Naming.Numbering
import ApiRoutes.Proofs.Route.ErrorComponent
import ApiRoutes.Proofs.Types.Growth

/-!
# Views of the responses

The success, the errors and the full type of a route's responses are copies: they are made when the
responses are first typed, and written again when a schema of the responses becomes a component. Two
stages do so, each of which may be switched off. After both of them the copies are what they would be
if they were made from the responses as they are then (`ResponseBodyInfo.Current`), apart from errors
that were merged.

The stage for the success changes one response, which is successful before and after. So it is still
the first successful one (`successIndex?_set`), and none of the errors (`filter_set_of_not`). The
stage for the errors changes no response at all.

`views_of_run` spells the views out for every route of a run.
-/

namespace ApiRoutes

/-! ## Views made anew -/

/-- Success and full type are those of the responses. -/
structure ResponseBodyInfo.Current (info : ResponseBodyInfo) : Prop where
  success_eq : info.success = .ofResponses info.responses
  fullType_eq : info.fullType = ApiRoutes.fullType info.responses

/-- The errors, too, are those of the responses: they were not merged. -/
def ResponseBodyInfo.Unmerged (info : ResponseBodyInfo) : Prop :=
  info.error = .ofResponses info.responses

theorem current_ofOperation (r : Resolver) (known : List NamedSchema) (rules : ResponseRules)
    (op : Operation) : (ResponseBodyInfo.ofOperation r known rules op).Current :=
  ⟨rfl, rfl⟩

theorem unmerged_ofOperation (r : Resolver) (known : List NamedSchema) (rules : ResponseRules)
    (op : Operation) : (ResponseBodyInfo.ofOperation r known rules op).Unmerged :=
  rfl

/-! ## One response is replaced -/

theorem filter_set_of_not {α : Type} {p : α → Bool} {x y : α} (hx : p x = false)
    (hy : p y = false) : ∀ {xs : List α} {i : Nat}, xs[i]? = some x →
      (xs.set i y).filter p = xs.filter p
  | [], _, h => nomatch h
  | z :: zs, 0, h => by
      obtain rfl := Option.some.inj h
      simp [hx, hy]
  | z :: zs, i + 1, h => by
      have hrest : (zs.set i y).filter p = zs.filter p := filter_set_of_not hx hy h
      rw [List.set_cons_succ, List.filter_cons, List.filter_cons, hrest]

section

variable {responses : List ResponseInfo} {i : Nat} {response later : ResponseInfo}
  (hi : responses[i]? = some response)
include hi

/-- Which response is the first success depends on nothing but which ones are successful. -/
theorem successIndex?_set (hsame : later.isSuccess = response.isSuccess) :
    successIndex? (responses.set i later) = successIndex? responses := by
  have hmap : (responses.set i later).map (·.isSuccess) = responses.map (·.isSuccess) := by
    obtain ⟨hlt, rfl⟩ := List.getElem?_eq_some_iff.mp hi
    have hbound : i < (responses.map (·.isSuccess)).length := by simpa using hlt
    have hget : (responses.map (·.isSuccess))[i] = later.isSuccess := by
      rw [List.getElem_map, hsame]
    rw [List.map_set, ← hget, List.set_getElem_self]
  have hfind : ∀ list : List ResponseInfo,
      successIndex? list = (list.map (·.isSuccess)).findIdx? id := fun list => by
    rw [List.findIdx?_map]
    rfl
  rw [hfind, hmap, ← hfind]

/-- A success is no error, whatever its type. -/
theorem ErrorResponse.ofResponses_set (hresponse : response.isSuccess = true)
    (hlater : later.isSuccess = true) :
    ofResponses (responses.set i later) = ofResponses responses := by
  unfold ofResponses
  rw [filter_set_of_not (by simp [hresponse]) (by simp [hlater]) hi]

end

theorem isSuccess_of_successIndex? {responses : List ResponseInfo} {i : Nat}
    (h : successIndex? responses = some i) :
    ∃ response, responses[i]? = some response ∧ response.isSuccess = true := by
  obtain ⟨hlt, hsuccess, -⟩ := List.findIdx?_eq_some_iff_getElem.mp h
  exact ⟨responses[i], List.getElem?_eq_getElem hlt, hsuccess⟩

/-! ## The stages -/

/-- Moving the success to a component changes nothing, or it changes one response, the success, and
makes the views anew. -/
theorem extractResponseBody_cases (r : Resolver) (registry : Registry) (options : ExtractOptions)
    (usage : String) (info : ResponseBodyInfo) :
    (extractResponseBody r registry options usage info).value = info
      ∨ ∃ i response later, info.success.index = some i ∧ info.responses[i]? = some response
        ∧ later.isSuccess = response.isSuccess
        ∧ (extractResponseBody r registry options usage info).value
          = ({ info with responses := info.responses.set i later }).rebuild := by
  unfold extractResponseBody
  split
  · rename_i i _ hindex
    split
    · rename_i response hresponse
      split
      · rename_i schema _
        let component := (hoist r registry usage options.responseBodySuffixes (.inline schema)).1
        exact .inr ⟨i, response,
          { response with schema := some (.ref component.path), type := component.typeName },
          hindex, hresponse, rfl, rfl⟩
      · exact .inl rfl
    · exact .inl rfl
  · exact .inl rfl

/-- The views are current again after the success was moved to a component. -/
theorem current_extractResponseBody (r : Resolver) (registry : Registry) (options : ExtractOptions)
    (usage : String) {info : ResponseBodyInfo} (h : info.Current) (hunmerged : info.Unmerged) :
    (extractResponseBody r registry options usage info).value.Current
      ∧ (extractResponseBody r registry options usage info).value.Unmerged := by
  rcases extractResponseBody_cases r registry options usage info with
    hsame | ⟨i, response, later, hindex, hresponse, hsuccess, hvalue⟩
  · rw [hsame]
    exact ⟨h, hunmerged⟩
  · have hfirst : successIndex? info.responses = some i := by
      rw [h.success_eq] at hindex
      exact hindex
    obtain ⟨response', hresponse', htrue⟩ := isSuccess_of_successIndex? hfirst
    obtain rfl := Option.some.inj (hresponse.symm.trans hresponse')
    -- the response that is put in its place is the first success in turn
    have hlater : successIndex? (info.responses.set i later) = some i :=
      (successIndex?_set hresponse hsuccess).trans hfirst
    have hget : (info.responses.set i later)[i]? = some later :=
      List.getElem?_set_self (List.getElem?_eq_some_iff.mp hresponse).1
    rw [hvalue]
    refine ⟨⟨?_, rfl⟩, ?_⟩
    · simp only [ResponseBodyInfo.rebuild, SuccessResponse.ofResponses, hlater, hindex,
        Option.bind_some, hget]
    · exact hunmerged.trans
        (ErrorResponse.ofResponses_set hresponse htrue (hsuccess.trans htrue)).symm

theorem current_extractResponseError (r : Resolver) (registry : Registry)
    (options : ExtractOptions) (usage : String) {info : ResponseBodyInfo} (h : info.Current) :
    (extractResponseError r registry options usage info).value.Current := by
  unfold extractResponseError
  split
  · exact ⟨h.success_eq, h.fullType_eq⟩
  · exact h

/-! ## What the views say -/

/-- The responses that are errors: no successes, and of a known type. -/
def failures (responses : List ResponseInfo) : List ResponseInfo :=
  responses.filter fun response => !response.isSuccess && response.type ≠ unknownType

/-- The position of the first successful response. -/
def IsFirstSuccess (responses : List ResponseInfo) (i : Nat) : Prop :=
  (∃ response, responses[i]? = some response ∧ response.isSuccess = true)
    ∧ ∀ j < i, ∀ response, responses[j]? = some response → response.isSuccess = false

theorem successIndex?_eq_some_iff {responses : List ResponseInfo} {i : Nat} :
    successIndex? responses = some i ↔ IsFirstSuccess responses i := by
  rw [successIndex?, List.findIdx?_eq_some_iff_getElem]
  constructor
  · rintro ⟨hlt, hsuccess, hbefore⟩
    refine ⟨⟨_, List.getElem?_eq_getElem hlt, hsuccess⟩, fun j hj response hresponse => ?_⟩
    obtain ⟨-, rfl⟩ := List.getElem?_eq_some_iff.mp hresponse
    exact Bool.eq_false_iff.mpr (hbefore j hj)
  · rintro ⟨⟨response, hresponse, hsuccess⟩, hbefore⟩
    obtain ⟨hlt, rfl⟩ := List.getElem?_eq_some_iff.mp hresponse
    refine ⟨hlt, hsuccess, fun j hj => Bool.eq_false_iff.mp ?_⟩
    exact hbefore j hj _ (List.getElem?_eq_getElem (hj.trans hlt))

/-- Success and full type, said of the responses as they are. -/
structure ResponseBodyInfo.SumsUp (info : ResponseBodyInfo) : Prop where
  index_eq_some_iff : ∀ i, info.success.index = some i ↔ IsFirstSuccess info.responses i
  type_of_index : ∀ i response, info.success.index = some i → info.responses[i]? = some response →
    info.success.type = response.type
  type_of_none : info.success.index = none → info.success.type = unknownType
  fullType_of_nil : info.responses = [] → info.fullType = unknownType
  fullType_of_ne_nil : info.responses ≠ [] →
    info.fullType = Text.joinDistinct " | " (info.responses.map ResponseInfo.envelope)

/-- The errors, said of the responses as they are. -/
structure ResponseBodyInfo.ListsErrors (info : ResponseBodyInfo) : Prop where
  schemas_eq : info.error.schemas = (failures info.responses).map fun response =>
    .response response.status response.schema response.type
  type_of_nil : failures info.responses = [] → info.error.type = unknownType
  type_of_ne_nil : failures info.responses ≠ [] →
    info.error.type = Text.joinDistinct " | " ((failures info.responses).map (·.type))

theorem ResponseBodyInfo.Current.sumsUp {info : ResponseBodyInfo} (h : info.Current) :
    info.SumsUp := by
  have hindex : info.success.index = successIndex? info.responses :=
    congrArg SuccessResponse.index h.success_eq
  have htype := congrArg SuccessResponse.type h.success_eq
  refine ⟨fun i => by rw [hindex, successIndex?_eq_some_iff], ?_, ?_, ?_, ?_⟩
  · intro i response hi hresponse
    rw [hindex] at hi
    simp only [SuccessResponse.ofResponses, hi, Option.bind_some, hresponse] at htype
    exact htype
  · intro hnone
    rw [hindex] at hnone
    simp only [SuccessResponse.ofResponses, hnone, Option.bind_none] at htype
    exact htype
  · intro hnil
    rw [h.fullType_eq, hnil]
    rfl
  · intro hne
    rw [h.fullType_eq]
    cases hresponses : info.responses with
    | nil => exact absurd hresponses hne
    | cons response rest => rfl

theorem ResponseBodyInfo.Unmerged.listsErrors {info : ResponseBodyInfo} (h : info.Unmerged) :
    info.ListsErrors := by
  refine ⟨congrArg ErrorResponse.schemas h, ?_, ?_⟩
  · intro hnil
    rw [h, ErrorResponse.ofResponses, ← failures, hnil]
    rfl
  · intro hne
    rw [h, ErrorResponse.ofResponses, ← failures]
    cases hfailures : failures info.responses with
    | nil => exact absurd hfailures hne
    | cons response rest =>
        show Text.joinDistinct " | " (((response :: rest).map _).map ErrorSchema.type) = _
        rw [List.map_map]
        rfl

/-- The schemas to merge are those of the errors among the responses. -/
theorem ResponseBodyInfo.Unmerged.errorSchemas_eq {info : ResponseBodyInfo} (h : info.Unmerged) :
    errorSchemas info.error = (failures info.responses).filterMap (·.schema) := by
  rw [ApiRoutes.errorSchemas_eq, h.listsErrors.schemas_eq, List.filterMap_map]
  rfl

/-- Errors have a schema to merge exactly if an error among the responses has one. -/
theorem ResponseBodyInfo.Unmerged.errorSchemas_ne_nil_iff {info : ResponseBodyInfo}
    (h : info.Unmerged) : errorSchemas info.error ≠ [] ↔
      ∃ response ∈ failures info.responses, response.schema.isSome = true := by
  rw [h.errorSchemas_eq, ne_eq, List.filterMap_eq_nil_iff]
  simp only [not_forall, ← Option.isSome_iff_ne_none, exists_prop]

/-! ## Merged errors -/

/-- Errors are merged: this is asked for, and one of them has a schema. -/
def MergesErrors (options : ExtractOptions) (responses : List ResponseInfo) : Prop :=
  options.responseError = true
    ∧ ∃ response ∈ failures responses, response.schema.isSome = true

/-- The component stands for all errors. -/
def ErrorResponse.StandsFor (error : ErrorResponse) (component : Component) : Prop :=
  error = ⟨[.component component.typeName component.path], component.typeName⟩

theorem unmerged_extractResponseError (r : Resolver) (registry : Registry)
    {options : ExtractOptions} (usage : String) {info : ResponseBodyInfo} (h : info.Unmerged)
    (hmerges : ¬ MergesErrors options info.responses) :
    (extractResponseError r registry options usage info).value.Unmerged := by
  rcases extractResponseError_cases r registry options usage info with ⟨hextract, hne⟩ | hsame
  · exact absurd ⟨hextract, h.errorSchemas_ne_nil_iff.mp hne⟩ hmerges
  · rw [hsame]
    exact h

/-- What the views of an operation's responses say, and which components they speak of. -/
structure ResponseBodyInfo.ViewsAgree (options : ExtractOptions) (components : List Component)
    (info : ResponseBodyInfo) : Prop where
  sumsUp : info.SumsUp
  listsErrors : ¬ MergesErrors options info.responses → info.ListsErrors
  standsFor : MergesErrors options info.responses →
    ∃ component ∈ components, info.error.StandsFor component

theorem viewsAgree_extractResponseError (r : Resolver) (registry : Registry)
    (options : ExtractOptions) (usage : String) {info : ResponseBodyInfo} (h : info.Current)
    (hunmerged : info.Unmerged) :
    (extractResponseError r registry options usage info).value.ViewsAgree options
      (extractResponseError r registry options usage info).registry.created where
  sumsUp := (current_extractResponseError r registry options usage h).sumsUp
  listsErrors := by
    rw [responses_extractResponseError]
    exact fun hmerges => (unmerged_extractResponseError r registry usage hunmerged hmerges).listsErrors
  standsFor := by
    rw [responses_extractResponseError]
    rintro ⟨hextract, hschema⟩
    obtain ⟨created, -, hcreated, herror⟩ := extractResponseError_of_schemas r registry usage
      hextract (hunmerged.errorSchemas_ne_nil_iff.mpr hschema)
    exact ⟨created, hcreated ▸ List.mem_append_right _ (List.mem_singleton_self created), herror⟩

/-! ## Routes -/

/-- After both stages the views of an operation's responses agree. -/
theorem Assembler.viewsAgree_errorOf (a : Assembler) (entry : Document.Entry) (registry : Registry)
    (usage : String) : (a.errorOf entry registry usage).value.ViewsAgree a.options.extract
      (a.errorOf entry registry usage).registry.created := by
  obtain ⟨hcurrent, hunmerged⟩ := current_extractResponseBody a.resolver
    (a.bodyOf entry registry usage).registry a.options.extract usage
    (current_ofOperation a.resolver (a.bodyOf entry registry usage).registry.known
      a.options.responses entry.operation)
    (unmerged_ofOperation _ _ _ _)
  exact viewsAgree_extractResponseError _ _ _ _ hcurrent hunmerged

/-- **Views of the responses.** In a successful run with default hooks, whatever is extracted, the
success and the full type of every route are those of its responses as they are in the end, and so
are its errors, unless they are merged into a component of the run. -/
theorem views_of_run {doc : Document} {options : RouteOptions} {result : RunResult}
    (h : run doc options = .ok result) : ∀ route ∈ result.routes.routes,
      route.responseBody.ViewsAgree options.extract result.routes.components := by
  intro route hroute
  obtain ⟨template, progress, -, hprogress, rfl⟩ := run_ok h
  rw [routes_finish rfl hprogress] at hroute
  obtain ⟨done, entry, m, base, args, hprefix, hm, hbase, -, rfl⟩ :=
    Progress.exists_step_of_mem_routes rfl hprogress route hroute
  let a := Assembler.plain doc options template
  let usage := (a.nameOf entry m.state.names base).1.usage
  have hviews : ResponseBodyInfo.ViewsAgree options.extract
      (a.errorOf entry m.state.registry usage).registry.created
      (a.errorOf entry m.state.registry usage).value :=
    a.viewsAgree_errorOf entry m.state.registry usage
  have hlater : (a.errorOf entry m.state.registry usage).registry.created
      <+: progress.state.registry.created :=
    ((a.hoists_requestParams _ usage (a.paramsOf entry)).trans
      (Progress.hoists_of_step rfl hprefix hm hbase hprogress)).prefix_created
  refine ⟨hviews.sumsUp, hviews.listsErrors, fun hmerges => ?_⟩
  obtain ⟨component, hmem, hstands⟩ := hviews.standsFor hmerges
  exact ⟨component, hlater.subset hmem, hstands⟩

/-- An operation with a success that becomes a component, and one with errors that do. -/
def accountsDocument : Document :=
  { openapi := "3.0.0"
    info := { title := "Accounts", version := "1" }
    paths := [("/accounts", { operations := [
      (.get, {
        operationId := some "getAccount"
        responses := [
          ("404", .inline {}),
          ("200", jsonResponse (.inline { messageSchema with nullable := some true })),
          ("201", jsonResponse (.inline .string))] }),
      (.post, {
        operationId := some "addAccount"
        responses := [
          ("400", jsonResponse (.inline messageSchema)),
          ("default", .inline {})] })] })] }

/-- What is extracted from the accounts. -/
def accountsOptions : RouteOptions :=
  { extract := { responseBody := true, responseError := true }
    responses := { defaultType := some "void" } }

/-- The second response of the first operation is the success and goes by the name of its component;
the error without a schema is listed. The errors of the second operation are merged. -/
theorem views_of_accounts : ∃ result,
    run accountsDocument accountsOptions = .ok result
      ∧ (∀ route ∈ result.routes.routes,
          route.responseBody.ViewsAgree accountsOptions.extract result.routes.components)
      ∧ result.routes.components.map (·.typeName) = ["GetAccountData", "AddAccountError"]
      ∧ result.routes.routes.map (fun route =>
          (route.responseBody.success, route.responseBody.error.type))
        = [(⟨some 1, "GetAccountData"⟩, "void"), (⟨none, "unknown"⟩, "AddAccountError")] := by
  obtain ⟨result, hrun, hmade⟩ := exists_ok_of_map
    (show (run accountsDocument accountsOptions).toOption.map (fun result =>
        (result.routes.components.map (·.typeName), result.routes.routes.map fun route =>
          (route.responseBody.success, route.responseBody.error.type)))
      = some (["GetAccountData", "AddAccountError"],
          [(⟨some 1, "GetAccountData"⟩, "void"), (⟨none, "unknown"⟩, "AddAccountError")]) by
      decide +kernel)
  obtain ⟨hcomponents, hroutes⟩ := Prod.mk.inj hmade
  exact ⟨result, hrun, views_of_run hrun, hcomponents, hroutes⟩

end ApiRoutes
