import ApiRoutes.Proofs.Types.References
import ApiRoutes.Proofs.Types.Rendered

/-!
# Bodies and their types

A body has a schema and a type, and both are written in several places: when the body is resolved,
when a named schema takes the place of the inline one, and when the schema is moved to a component.
Wherever they are written, the type is the type expression of the schema up to null
(`RequestBodyInfo.Typed`, `ResponseInfo.Typed`), as long as references to named schemas are rendered
as their type names. `typed_requestBody_routeOf` and `typed_responses_routeOf` say so of a route.
-/

namespace ApiRoutes

variable {r : Resolver} {known : List NamedSchema} {registry : Registry}

/-! ## Resolved bodies -/

namespace ResolvedBody

variable {operationId default : Option String}

/-- The content of what a reference points at belongs to the other component. -/
theorem schema_ofResolved (resolved : Resolved) :
    (ofResolved r known default resolved).schema = none := by
  unfold ofResolved
  extract_lets ofSchema?
  have hschema : ∀ schema, (ofSchema? schema).schema = none := by
    intro schema
    cases schema <;> rfl
  split
  · rfl
  · exact hschema (some _)
  · exact hschema _
  · exact hschema _
  · rfl
  · rfl
  · rfl
  · rfl

theorem schema_ofReference (path : String) :
    (ofReference r known operationId default path).schema = none := by
  unfold ofReference
  split
  · rfl
  · split
    · rfl
    · exact schema_ofResolved _

theorem typeExpr_of_schema_ofContent (hknown : AreReferable r known) {content : Entries MediaType}
    {schema : OrRef Schema} (h : (ofContent r known default content).schema = some schema) :
    r.typeExpr schema = (ofContent r known default content).type := by
  unfold ofContent at h ⊢
  split at h
  · cases h
  · extract_lets at h ⊢
    split at h
    · rename_i found hfound
      obtain ⟨hstandard, hslash⟩ := hknown found (Registry.mem_of_findReusable hfound)
      cases h
      exact hstandard.typeExpr_ref hslash
    · cases h
      rfl

/-- The type of a body with a schema is the type expression of the schema. -/
theorem typeExpr_of_schema (hknown : AreReferable r known) {node : BodyNode}
    {schema : OrRef Schema} (h : (ofNode r known operationId default node).schema = some schema) :
    r.typeExpr schema = (ofNode r known operationId default node).type := by
  unfold ofNode at h ⊢
  split at h
  · exact typeExpr_of_schema_ofContent hknown h
  · exact typeExpr_of_schema_ofContent hknown h
  · rw [schema_ofReference] at h
    cases h
  · rw [schema_ofReference] at h
    cases h

end ResolvedBody

/-! ## Request bodies -/

/-- If the body has a schema, its type is the type expression of the schema, up to null. -/
def RequestBodyInfo.Typed (r : Resolver) (body : RequestBodyInfo) : Prop :=
  ∀ schema, body.schema = some schema →
    ∃ nullable, body.type = some (decorateNullable nullable (r.typeExpr schema))

theorem Assembler.typed_requestBody (hknown : AreReferable r registry.known) (op : Operation)
    (params : RouteParams) : (requestBody r registry op params).Typed r := by
  intro schema hschema
  cases hform : params.formData with
  | cons param rest =>
      simp only [requestBody, hform] at hschema ⊢
      cases hschema
      exact ⟨false, by rw [decorateNullable_false]⟩
  | nil =>
      simp only [requestBody, hform] at hschema ⊢
      cases hbody : op.requestBody with
      | none => rw [hbody] at hschema; cases hschema
      | some entry =>
          rw [hbody, Option.map_some, Option.bind_some] at hschema
          rw [Option.map_some, Option.map_some, ResolvedBody.typeExpr_of_schema hknown hschema]
          exact ⟨_, rfl⟩

theorem typed_extractRequestBody {options : ExtractOptions}
    (hsuffixes : options.SuffixesReferable) (registry : Registry) (usage : String)
    {body : RequestBodyInfo} (h : body.Typed r) :
    (extractRequestBody r registry options usage body).value.Typed r := by
  have hmem : options.requestBodySuffixes ∈ options.suffixLists := by
    simp [ExtractOptions.suffixLists]
  unfold extractRequestBody
  split
  · rename_i inner _ _
    have hname := Registry.typeExpr_ref_hoist r registry usage (.inline inner) (hsuffixes _ hmem)
    intro schema hschema
    cases hschema
    refine ⟨false, ?_⟩
    rw [decorateNullable_false]
    exact congrArg some hname.symm
  · exact h

/-! ## Responses -/

/-- If the response has a schema, its type is the type expression of the schema, up to null. -/
def ResponseInfo.Typed (r : Resolver) (response : ResponseInfo) : Prop :=
  ∀ schema, response.schema = some schema →
    ∃ nullable, response.type = decorateNullable nullable (r.typeExpr schema)

theorem ResponseInfo.typed_ofEntry (hknown : AreReferable r known) (rules : ResponseRules)
    (operationId : Option String) (key : String) (entry : OrRef Response) :
    (ofEntry r known rules operationId key entry).Typed r := by
  intro schema hschema
  rw [ResolvedBody.typeExpr_of_schema hknown hschema]
  exact ⟨_, rfl⟩

theorem ResponseBodyInfo.typed_ofOperation (hknown : AreReferable r known) (rules : ResponseRules)
    (op : Operation) : ∀ response ∈ (ofOperation r known rules op).responses, response.Typed r := by
  intro response hresponse
  obtain ⟨⟨key, entry⟩, -, rfl⟩ := List.mem_map.mp hresponse
  exact ResponseInfo.typed_ofEntry hknown rules op.operationId key entry

theorem typed_extractResponseBody {options : ExtractOptions}
    (hsuffixes : options.SuffixesReferable) (registry : Registry) (usage : String)
    {info : ResponseBodyInfo} (h : ∀ response ∈ info.responses, response.Typed r) :
    ∀ response ∈ (extractResponseBody r registry options usage info).value.responses,
      response.Typed r := by
  have hmem : options.responseBodySuffixes ∈ options.suffixLists := by
    simp [ExtractOptions.suffixLists]
  unfold extractResponseBody
  split
  · split
    · split
      · intro response hresponse
        rcases List.mem_or_eq_of_mem_set hresponse with hkept | rfl
        · exact h response hkept
        · rename_i inner _
          have hname :=
            Registry.typeExpr_ref_hoist r registry usage (.inline inner) (hsuffixes _ hmem)
          intro schema hschema
          cases hschema
          refine ⟨false, ?_⟩
          rw [decorateNullable_false]
          exact hname.symm
      · exact h
    · exact h
  · exact h

/-- Merging the errors changes no response. -/
theorem responses_extractResponseError (r : Resolver) (registry : Registry)
    (options : ExtractOptions) (usage : String) (info : ResponseBodyInfo) :
    (extractResponseError r registry options usage info).value.responses = info.responses := by
  unfold extractResponseError
  split <;> rfl

/-! ## Routes -/

namespace Assembler

variable {a : Assembler} (entry : Document.Entry) {state : RunState} (base : String)
  (args : SpecificArgs) (hsuffixes : a.options.extract.SuffixesReferable)
  (hknown : AreReferable a.resolver state.registry.known)
include hsuffixes hknown

theorem typed_requestBody_routeOf :
    (a.routeOf entry state base args).requestBody.Typed a.resolver := by
  unfold RequestBodyInfo.Typed
  rw [routeOf_requestBody_schema, routeOf_requestBody_type]
  exact typed_extractRequestBody hsuffixes _ _ (typed_requestBody hknown _ _)

theorem typed_responses_routeOf :
    ∀ response ∈ (a.routeOf entry state base args).responseBody.responses,
      response.Typed a.resolver := by
  let usage := (a.nameOf entry state.names base).1.usage
  have hlater : AreReferable a.resolver (a.bodyOf entry state.registry usage).registry.known :=
    (Registry.hoists_extractRequestBody _ _ _ _ _).areReferable hsuffixes hknown
  have hdeclared := ResponseBodyInfo.typed_ofOperation hlater a.options.responses entry.operation
  have hsuccess := typed_extractResponseBody hsuffixes
    (a.bodyOf entry state.registry usage).registry usage hdeclared
  show ∀ response ∈ (a.errorOf entry state.registry usage).value.responses, _
  rw [errorOf, responses_extractResponseError]
  exact hsuccess

end Assembler

end ApiRoutes
