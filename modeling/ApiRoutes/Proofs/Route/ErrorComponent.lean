import ApiRoutes.Proofs.Document.ReferenceRoots
import ApiRoutes.Proofs.Route.TypedBodies
import ApiRoutes.Proofs.Types.Rendered

/-!
# The component for the errors of a route

The errors of a route may be merged into one component, which then replaces them. The component is
made from the schemas of the errors, while the type of the errors was joined from their types. The
two agree for an error with a schema, because its type is the type expression of its schema, up to
null (`ResolvedBody.typeExpr_of_schema`); an error without a schema has no part in the component.

`alternatives_of_errorComponent` sums this up: it says for each alternative of the errors' type
where it is afterwards.
-/

namespace ApiRoutes

open Text (Closed alternatives)

/-! ## Bodies -/

/-- The type of a body is closed, and it is the type expression of the body's schema if the body has
one. -/
structure ResolvedBody.Agrees (r : Resolver) (body : ResolvedBody) : Prop where
  closed : Closed body.type
  typeExpr_eq : ∀ schema, body.schema = some schema → r.typeExpr schema = body.type

namespace ResolvedBody

variable {r : Resolver} {known : List NamedSchema} {default : Option String}
  {operationId : Option String} (hdefault : ∀ type, default = some type → Closed type)
include hdefault

theorem closed_fallback : Closed (fallback default).type := by
  cases default with
  | none => show Closed unknownType; decide
  | some type => exact hdefault type rfl

variable (hnames : ∀ name, Closed (r.typeName name))
include hnames

theorem closed_ofContent (hstandard : ∀ schema ∈ known, schema.IsStandard r)
    (content : Entries MediaType) : Closed (ofContent r known default content).type := by
  unfold ofContent
  split
  · exact closed_fallback hdefault
  · rename_i schema hfirst
    extract_lets type
    split
    · rename_i found hfound
      show Closed found.typeName
      rw [(hstandard found (Registry.mem_of_findReusable hfound)).typeName_eq]
      exact hnames found.name
    · exact Resolver.closed_typeExpr hnames schema

theorem closed_ofResolved (hstandard : ∀ schema ∈ known, schema.IsStandard r) {resolved : Resolved}
    (hresolved : Closed resolved.typeName) :
    Closed (ofResolved r known default resolved).type := by
  unfold ofResolved
  extract_lets ofSchema?
  have hschema : ∀ schema, Closed (ofSchema? schema).type := by
    intro schema
    cases schema with
    | none => exact closed_fallback hdefault
    | some schema => exact Resolver.closed_typeExpr hnames schema
  split
  · exact hresolved
  · exact hschema (some _)
  · exact hschema _
  · exact hschema _
  · exact closed_fallback hdefault
  · exact closed_ofContent hdefault hnames hstandard _
  · exact closed_ofContent hdefault hnames hstandard _
  · exact closed_fallback hdefault

theorem closed_ofReference (hstandard : ∀ schema ∈ known, schema.IsStandard r) (path : String) :
    Closed (ofReference r known operationId default path).type := by
  unfold ofReference
  split
  · exact closed_fallback hdefault
  · rename_i resolved hresolved
    split
    · rename_i name hname
      unfold knownName? at hname
      extract_lets candidate at hname
      split at hname
      · obtain rfl := Option.some.inj hname
        exact hnames _
      · cases hname
    · refine closed_ofResolved hdefault hnames hstandard ?_
      rw [Resolver.typeName_of_resolve? hresolved]
      exact hnames resolved.name

theorem agrees_ofNode (hknown : AreReferable r known) (node : BodyNode) :
    (ofNode r known operationId default node).Agrees r := by
  have hstandard : ∀ schema ∈ known, schema.IsStandard r :=
    fun schema hschema => (hknown schema hschema).1
  refine ⟨?_, fun schema hschema => typeExpr_of_schema hknown hschema⟩
  unfold ofNode
  split
  · exact closed_ofContent hdefault hnames hstandard _
  · exact closed_ofContent hdefault hnames hstandard _
  · exact closed_ofReference hdefault hnames hstandard _
  · exact closed_ofReference hdefault hnames hstandard _

end ResolvedBody

/-! ## Errors -/

/-- The schema that an error brings with it. -/
def ErrorSchema.schema? : ErrorSchema → Option (OrRef Schema)
  | .response _ schema _ => schema
  | .component _ _ => none

theorem errorSchemas_eq (error : ErrorResponse) :
    errorSchemas error = error.schemas.filterMap ErrorSchema.schema? := by
  unfold errorSchemas
  congr 1

/-- The type of an error is closed, and if the error has a schema, the type is the type expression
of the schema up to null. -/
structure ErrorSchema.Agrees (r : Resolver) (entry : ErrorSchema) : Prop where
  closed : Closed entry.type
  typeExpr_eq : ∀ schema, entry.schema? = some schema →
    ∃ nullable, entry.type = decorateNullable nullable (r.typeExpr schema)

/-- The errors agree one by one, and their type joins theirs. -/
structure ErrorResponse.Agrees (r : Resolver) (error : ErrorResponse) : Prop where
  entries : ∀ entry ∈ error.schemas, entry.Agrees r
  type_eq : error.schemas ≠ [] →
    error.type = Text.joinDistinct Text.bar (error.schemas.map ErrorSchema.type)

theorem ErrorResponse.type_ofResponses {responses : List ResponseInfo}
    (h : (ofResponses responses).schemas ≠ []) :
    (ofResponses responses).type
      = Text.joinDistinct Text.bar ((ofResponses responses).schemas.map ErrorSchema.type) := by
  simp only [ofResponses] at h ⊢
  rfl

/-- The errors of an operation agree with their schemas. -/
theorem errors_agree {r : Resolver} {known : List NamedSchema} {rules : ResponseRules}
    {op : Operation} (hdefault : ∀ type, rules.defaultType = some type → Closed type)
    (hnames : ∀ name, Closed (r.typeName name)) (hknown : AreReferable r known) :
    (ResponseBodyInfo.ofOperation r known rules op).error.Agrees r := by
  refine ⟨fun entry hentry => ?_, ErrorResponse.type_ofResponses⟩
  obtain ⟨response, hresponse, rfl⟩ := List.mem_map.mp hentry
  obtain ⟨⟨key, node⟩, -, rfl⟩ := List.mem_map.mp (List.mem_filter.mp hresponse).1
  have hbody : (ResolvedBody.ofNode r known op.operationId rules.defaultType
      (.response node)).Agrees r := ResolvedBody.agrees_ofNode hdefault hnames hknown _
  refine ⟨closed_decorateNullable hbody.closed _, fun schema hschema => ?_⟩
  rw [hbody.typeExpr_eq schema hschema]
  exact ⟨_, rfl⟩

/-- No error of an operation is a component yet. -/
theorem ne_component_of_mem_error {r : Resolver} {known : List NamedSchema} {rules : ResponseRules}
    {op : Operation} {entry : ErrorSchema}
    (h : entry ∈ (ResponseBodyInfo.ofOperation r known rules op).error.schemas)
    (typeName path : String) : entry ≠ .component typeName path := by
  obtain ⟨response, -, rfl⟩ := List.mem_map.mp h
  exact ErrorSchema.noConfusion

/-- An alternative of the errors' type is an alternative of some error's type. -/
theorem ErrorResponse.Agrees.exists_of_mem_alternatives {r : Resolver} {error : ErrorResponse}
    (h : error.Agrees r) (hne : error.schemas ≠ []) {x : String}
    (hx : x ∈ alternatives error.type) : ∃ entry ∈ error.schemas, x ∈ alternatives entry.type := by
  rw [h.type_eq hne, Text.mem_alternatives_joinDistinct (by simpa using hne)
    (List.forall_mem_map.mpr fun entry hentry => (h.entries entry hentry).closed)] at hx
  obtain ⟨type, hmem, hx⟩ := hx
  obtain ⟨entry, hentry, rfl⟩ := List.mem_map.mp hmem
  exact ⟨entry, hentry, hx⟩

/-- An alternative of an error with a schema is one of the schema, unless it is the null that was
added to the type. -/
theorem ErrorSchema.Agrees.mem_alternatives {r : Resolver} {entry : ErrorSchema}
    {schema : OrRef Schema} (h : entry.Agrees r) (hnames : ∀ name, Closed (r.typeName name))
    (hschema : entry.schema? = some schema) {x : String} (hx : x ∈ alternatives entry.type) :
    x ∈ alternatives (r.typeExpr schema)
      ∨ (x = "null" ∧ entry.type = r.typeExpr schema ++ " | null") := by
  obtain ⟨nullable, htype⟩ := h.typeExpr_eq schema hschema
  unfold decorateNullable at htype
  split at htype
  · exact .inl (htype ▸ hx)
  · have hnull : r.typeExpr schema ++ " | null" = r.typeExpr schema ++ Text.bar ++ "null" := by
      rw [String.append_assoc]
      rfl
    rw [htype, hnull, Text.alternatives_append (Resolver.closed_typeExpr hnames schema),
      List.mem_append] at hx
    rcases hx with hold | hadded
    · exact .inl hold
    · exact .inr ⟨List.mem_singleton.mp hadded, htype⟩

/-! ## The component -/

theorem renderAll_ofSchemas (typeName : String → String) (schemas : List (OrRef Schema)) :
    TypeTree.renderAll (TypeTree.ofSchemas typeName schemas)
      = schemas.map fun schema => (TypeTree.ofSchemaOrRef typeName schema).render := by
  induction schemas with
  | nil => rfl
  | cons schema rest ih => exact congrArg (List.cons _) ih

/-- The component is the union of the schemas. -/
theorem typeExpr_mergedError (r : Resolver) {schemas : List (OrRef Schema)} (h : schemas ≠ []) :
    r.typeExpr (.inline (mergedError r schemas))
      = Text.joinDistinct Text.bar (schemas.map r.typeExpr) := by
  have htree : r.tree (.inline (mergedError r schemas))
      = .union (TypeTree.ofSchemas r.typeName schemas) := by
    cases schemas with
    | nil => exact absurd rfl h
    | cons schema rest => rfl
  have hrender : (TypeTree.union (TypeTree.ofSchemas r.typeName schemas)).render
      = Text.joinDistinct Text.bar
        (TypeTree.renderAll (TypeTree.ofSchemas r.typeName schemas)) := rfl
  rw [Resolver.typeExpr, htree, hrender, renderAll_ofSchemas]
  rfl

/-- The component has the alternatives of each of the schemas. -/
theorem mem_alternatives_mergedError {r : Resolver} (hnames : ∀ name, Closed (r.typeName name))
    {schemas : List (OrRef Schema)} {schema : OrRef Schema} (hschema : schema ∈ schemas)
    {x : String} (hx : x ∈ alternatives (r.typeExpr schema)) :
    x ∈ alternatives (r.typeExpr (.inline (mergedError r schemas))) := by
  have hne : schemas ≠ [] := List.ne_nil_of_mem hschema
  rw [typeExpr_mergedError r hne, Text.mem_alternatives_joinDistinct (by simpa using hne)
    (List.forall_mem_map.mpr fun schema _ => Resolver.closed_typeExpr hnames schema)]
  exact ⟨_, List.mem_map_of_mem hschema, hx⟩

theorem extractResponseError_of_schemas (r : Resolver) (registry : Registry) (usage : String)
    {options : ExtractOptions} {info : ResponseBodyInfo}
    (hextract : options.responseError = true) (h : errorSchemas info.error ≠ []) :
    ∃ created : Component,
      created.schema = .inline (mergedError r (errorSchemas info.error))
        ∧ (extractResponseError r registry options usage info).registry.created
          = registry.created ++ [created]
        ∧ (extractResponseError r registry options usage info).value.error
          = ⟨[.component created.typeName created.path], created.typeName⟩ := by
  cases hschemas : errorSchemas info.error with
  | nil => exact absurd hschemas h
  | cons schema rest =>
      unfold extractResponseError
      rw [hextract, hschemas]
      exact ⟨_, rfl, rfl, rfl⟩

/-- The errors are replaced only by the component for their schemas. -/
theorem extractResponseError_cases (r : Resolver) (registry : Registry) (options : ExtractOptions)
    (usage : String) (info : ResponseBodyInfo) :
    (options.responseError = true ∧ errorSchemas info.error ≠ [])
      ∨ (extractResponseError r registry options usage info).value = info := by
  cases hextract : options.responseError with
  | false => exact .inr (by rw [extractResponseError, hextract])
  | true =>
      cases hschemas : errorSchemas info.error with
      | nil => exact .inr (by rw [extractResponseError, hextract, hschemas])
      | cons schema rest => exact .inl ⟨rfl, List.cons_ne_nil _ _⟩

/-- **Nothing else is lost.** If the component for the errors of an operation replaces them, every
alternative of the errors' type is an alternative of the component's type expression, except for
those of errors without a schema and for the null that was added to the type of an error with one.

The affixes of type names and the default type are texts that the user chose: they must not cut a
type expression in two. Names of schemas with a slash cannot be referred to. -/
theorem alternatives_of_errorComponent {r : Resolver} {known : List NamedSchema}
    {registry : Registry} {rules : ResponseRules} {options : ExtractOptions} {usage : String}
    {op : Operation} {typeName path : String}
    (hnames : ∀ name, Closed (r.typeName name))
    (hdefault : ∀ type, rules.defaultType = some type → Closed type)
    (hknown : AreReferable r known)
    (hreplaced : (extractResponseError r registry options usage
      (.ofOperation r known rules op)).value.error.schemas = [.component typeName path]) :
    ∃ created : Component,
      (extractResponseError r registry options usage
          (.ofOperation r known rules op)).registry.created = registry.created ++ [created]
        ∧ created.typeName = typeName ∧ created.path = path
        ∧ ∀ x ∈ alternatives (ResponseBodyInfo.ofOperation r known rules op).error.type,
            x ∈ alternatives (r.typeExpr created.schema)
              ∨ ∃ entry ∈ (ResponseBodyInfo.ofOperation r known rules op).error.schemas,
                  (entry.schema? = none ∧ x ∈ alternatives entry.type)
                    ∨ ∃ schema, entry.schema? = some schema
                      ∧ x = "null" ∧ entry.type = r.typeExpr schema ++ " | null" := by
  rcases extractResponseError_cases r registry options usage (.ofOperation r known rules op) with
    ⟨hextract, hne⟩ | hsame
  · obtain ⟨created, hschema, hcreated, herror⟩ :=
      extractResponseError_of_schemas r registry usage hextract hne
    rw [herror] at hreplaced
    obtain ⟨hname, hpath⟩ := ErrorSchema.component.inj (List.cons.inj hreplaced).1
    refine ⟨created, hcreated, hname, hpath, fun x hx => ?_⟩
    rw [errorSchemas_eq] at hne hschema
    have hagree : (ResponseBodyInfo.ofOperation r known rules op).error.Agrees r :=
      errors_agree hdefault hnames hknown
    obtain ⟨entry, hentry, hx⟩ :=
      hagree.exists_of_mem_alternatives (fun hnil => hne (by rw [hnil]; rfl)) hx
    cases hentrySchema : entry.schema? with
    | none => exact .inr ⟨entry, hentry, .inl ⟨hentrySchema, hx⟩⟩
    | some schema =>
        rcases (hagree.entries entry hentry).mem_alternatives hnames hentrySchema hx with
          hkept | hnull
        · rw [hschema]
          exact .inl (mem_alternatives_mergedError hnames
            (List.mem_filterMap.mpr ⟨entry, hentry, hentrySchema⟩) hkept)
        · exact .inr ⟨entry, hentry, .inr ⟨schema, hentrySchema, hnull⟩⟩
  · -- the errors of an operation are no components
    rw [hsame] at hreplaced
    have hmem := hreplaced ▸ List.mem_singleton_self (ErrorSchema.component typeName path)
    exact absurd rfl (ne_component_of_mem_error hmem typeName path)

/-! ## What is lost -/

/-- An object with a message. -/
def messageSchema : Schema :=
  { schemaType := some (.single .object), properties := [("message", .inline .string)] }

/-- A response with a body. -/
def jsonResponse (schema : OrRef Schema) : OrRef Response :=
  .inline { content := [("application/json", { schema := some schema })] }

/-- An operation with an error that has a body and one that has none. -/
def goneOperation : Operation :=
  { responses := [("400", jsonResponse (.inline messageSchema)), ("404", .inline {})] }

/-- What is left of the errors of that operation. -/
theorem alternatives_of_goneErrors : ∃ created : Component,
    (extractResponseError default {} { responseError := true } "getPet"
        (.ofOperation default [] { defaultType := some "void" } goneOperation)).registry.created
      = [created]
      ∧ created.typeName = "GetPetError"
      ∧ ∀ x ∈ ["\x7b message?: string \x7d", "void"],
          x ∈ alternatives ((default : Resolver).typeExpr created.schema)
            ∨ ∃ entry ∈ (ResponseBodyInfo.ofOperation default [] { defaultType := some "void" }
                goneOperation).error.schemas,
                (entry.schema? = none ∧ x ∈ alternatives entry.type)
                  ∨ ∃ schema, entry.schema? = some schema ∧ x = "null"
                    ∧ entry.type = (default : Resolver).typeExpr schema ++ " | null" := by
  have hbefore : alternatives (ResponseBodyInfo.ofOperation default []
      { defaultType := some "void" } goneOperation).error.type
        = ["\x7b message?: string \x7d", "void"] := by decide +kernel
  have hreplaced : (extractResponseError default {} { responseError := true } "getPet"
      (.ofOperation default [] { defaultType := some "void" } goneOperation)).value.error.schemas
        = [.component "GetPetError" "#/components/schemas/GetPetError"] := rfl
  have hdefault : ∀ type, ({ defaultType := some "void" } : ResponseRules).defaultType = some type →
      Closed type := fun type htype => Option.some.inj htype ▸ by decide
  have hknown : AreReferable default [] := fun _ hnil => nomatch hnil
  obtain ⟨created, hcreated, hname, -, hall⟩ := alternatives_of_errorComponent
    (Affixes.closed_typeName (by decide) (by decide)) hdefault hknown hreplaced
  exact ⟨created, hcreated, hname, hbefore ▸ hall⟩

/-- The component that replaces the errors of an operation lacks an alternative of their type. -/
def LosesAlternative (r : Resolver) (rules : ResponseRules) (op : Operation) (x : String) : Prop :=
  let registry := Registry.ofResolver r
  let info := ResponseBodyInfo.ofOperation r registry.known rules op
  let after := extractResponseError r registry { responseError := true } "getPet" info
  ∃ created, after.registry.created = [created]
    ∧ x ∈ alternatives info.error.type ∧ x ∉ alternatives (r.typeExpr created.schema)

/-- Lost are: the type of an error without a schema, a null that was added, the name of a schema
that no reference reaches, and what an affix or a default type with an open bracket runs together. -/
theorem loses_alternatives :
    LosesAlternative default { defaultType := some "void" } goneOperation "void"
      ∧ LosesAlternative
        ⟨{ schemas := [("Problem", .inline { messageSchema with nullable := some true })] }, {}⟩ {}
        { responses := [("400",
          jsonResponse (.inline { messageSchema with nullable := some true }))] } "null"
      ∧ LosesAlternative ⟨{ schemas := [("a/b", .inline messageSchema)] }, {}⟩ {}
        { responses := [("400", jsonResponse (.inline messageSchema))] } "AB"
      ∧ LosesAlternative ⟨{ schemas := [("Pet", .inline {})] }, { before := "(" }⟩
        { defaultType := some "void" }
        { responses := [
          ("400", jsonResponse (.ref "#/components/schemas/Pet")), ("404", .inline {})] }
        "(Pet | void"
      ∧ LosesAlternative default { defaultType := some "(" }
        { responses := [("404", .inline {}), ("409", jsonResponse (.inline messageSchema))] }
        "( | \x7b message?: string \x7d" :=
  ⟨⟨_, rfl, by decide +kernel, by decide +kernel⟩, ⟨_, rfl, by decide +kernel, by decide +kernel⟩,
    ⟨_, rfl, by decide +kernel, by decide +kernel⟩, ⟨_, rfl, by decide +kernel, by decide +kernel⟩,
    ⟨_, rfl, by decide +kernel, by decide +kernel⟩⟩

end ApiRoutes
