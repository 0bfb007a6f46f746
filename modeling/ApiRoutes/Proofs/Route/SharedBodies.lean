import ApiRoutes.Proofs.Naming.Numbering
import ApiRoutes.Proofs.Types.Growth
import ApiRoutes.Proofs.Types.Rendered

/-!
# Bodies with the same content

With request bodies moved to components, the first of several operations with the same body makes a
component and a later one finds it by its content. The two get there by different ways:

- the first way ends with the bare name of the component (`bodyOf_of_findReusable_eq_none`);
- the second way adds null to the name if the schema allows it (`bodyOf_of_findReusable`), and it
  prefers a schema that has the type expression for its *name*.

`sharedBodies_iff` says exactly when both still give the same schema and the same type.
-/

namespace ApiRoutes

/-! ## What a type expression stands for -/

namespace Registry

theorem findReusable_of_name {known : List NamedSchema} {type : String} {found : NamedSchema}
    (h : known.find? (·.typeName = type) = some found) :
    findReusable known type = some found := by
  rw [findReusable, h]

theorem findReusable_of_content {known : List NamedSchema} {type : String}
    (h : known.find? (·.typeName = type) = none) (hcomposite : isComposite type = true) :
    findReusable known type = known.find? (·.content = type) := by
  rw [findReusable, h]
  exact if_pos hcomposite

/-- What a composite expression stands for, it stands for later as well, unless a later schema has
it for its type name. -/
theorem findReusable_append {known : List NamedSchema} {type : String} {found : NamedSchema}
    (hcomposite : isComposite type = true) (h : findReusable known type = some found)
    (more : List NamedSchema) :
    findReusable (known ++ more) type
      = some (((known ++ more).find? (·.typeName = type)).getD found) := by
  cases hname : known.find? (·.typeName = type) with
  | some named =>
      have hlater : (known ++ more).find? (·.typeName = type) = some named := by
        rw [List.find?_append, hname, Option.some_or]
      rw [findReusable_of_name hlater, hlater, Option.getD_some]
  | none =>
      rw [findReusable_of_content hname hcomposite] at h
      cases hlater : (known ++ more).find? (·.typeName = type) with
      | some named => rw [findReusable_of_name hlater, Option.getD_some]
      | none =>
          rw [findReusable_of_content hlater hcomposite, List.find?_append, h, Option.some_or,
            Option.getD_none]

/-- A new schema with the content of an expression is what the expression stands for, if it stood
for nothing before. -/
theorem findReusable_append_singleton {known : List NamedSchema} {type : String}
    {made : NamedSchema} (hcomposite : isComposite type = true)
    (h : findReusable known type = none) (hcontent : made.content = type) :
    findReusable (known ++ [made]) type = some made := by
  have hname : known.find? (·.typeName = type) = none := by
    cases hfound : known.find? (·.typeName = type) with
    | none => rfl
    | some named => rw [findReusable_of_name hfound] at h; cases h
  rw [findReusable_of_content hname hcomposite] at h
  cases hlater : (known ++ [made]).find? (·.typeName = type) with
  | some named =>
      -- the new schema itself has the expression for its type name
      rw [findReusable_of_name hlater]
      rw [List.find?_append, hname, Option.none_or] at hlater
      exact congrArg some (List.mem_singleton.mp (List.mem_of_find?_eq_some hlater))
  | none =>
      rw [findReusable_of_content hlater hcomposite, List.find?_append, h, Option.none_or]
      simp [hcontent]

end Registry

/-! ## The body of one operation -/

section

variable {r : Resolver} {registry : Registry} {options : ExtractOptions} {usage : String}
  {body : RequestBodyInfo}

theorem extractRequestBody_of_ref {path : String} (h : body.schema = some (.ref path)) :
    extractRequestBody r registry options usage body = { value := body, registry } := by
  unfold extractRequestBody
  rw [h]
  cases options.requestBody <;> rfl

theorem extractRequestBody_of_inline {schema : Schema} (hextract : options.requestBody = true)
    (h : body.schema = some (.inline schema)) :
    extractRequestBody r registry options usage body =
      let (component, later) :=
        hoist r registry usage options.requestBodySuffixes (.inline schema)
      { value := { body with schema := some (.ref component.path), type := some component.typeName }
        registry := later
        notes := Registry.notes component } := by
  unfold extractRequestBody
  rw [hextract, h]

end

/-- An operation without form parameters whose inline body has a given first schema. -/
structure HasInlineBody (a : Assembler) (entry : Document.Entry) (schema : Schema) : Prop where
  formData : (a.paramsOf entry).formData = []
  body : ∃ body, entry.operation.requestBody = some (.inline body)
    ∧ firstSchema? body.content = some (.inline schema)

namespace Assembler

variable {a : Assembler} {entry : Document.Entry} {schema : Schema} {registry : Registry}
  {found : NamedSchema} (usage : String)

/-- The declared body, before it is moved: what its expression stands for, if there is anything. -/
theorem requestBody_of_hasInlineBody (h : HasInlineBody a entry schema) (registry : Registry) :
    let e := a.resolver.typeExpr (.inline schema)
    let reusable := Registry.findReusable registry.known e
    let body := requestBody a.resolver registry entry.operation (a.paramsOf entry)
    body.schema = some (reusable.elim (.inline schema) fun found => .ref found.path)
      ∧ body.type = some (decorateNullable schema.permitsNull (reusable.elim e (·.typeName))) := by
  intro e reusable body
  obtain ⟨declared, hdeclared, hfirst⟩ := h.body
  have hresolved : ResolvedBody.ofContent a.resolver registry.known none declared.content
      = ⟨reusable.elim e (·.typeName),
          some (reusable.elim (.inline schema) fun found => .ref found.path),
          schema.permitsNull⟩ := by
    simp only [ResolvedBody.ofContent, hfirst, reusable, e]
    cases Registry.findReusable registry.known (a.resolver.typeExpr (.inline schema)) <;> rfl
  have hbody : body.schema = (ResolvedBody.ofContent a.resolver registry.known none
        declared.content).schema
      ∧ body.type = some (decorateNullable
        (ResolvedBody.ofContent a.resolver registry.known none declared.content).nullable
        (ResolvedBody.ofContent a.resolver registry.known none declared.content).type) := by
    simp only [body, requestBody, h.formData, hdeclared]
    exact ⟨rfl, rfl⟩
  rw [hresolved] at hbody
  exact hbody

/-- A body that stands for a named schema refers to it, and null is added to its name. -/
theorem bodyOf_of_findReusable (h : HasInlineBody a entry schema)
    (hfound : Registry.findReusable registry.known (a.resolver.typeExpr (.inline schema))
      = some found) :
    (a.bodyOf entry registry usage).value.schema = some (.ref found.path)
      ∧ (a.bodyOf entry registry usage).value.type
        = some (decorateNullable schema.permitsNull found.typeName)
      ∧ (a.bodyOf entry registry usage).registry = registry := by
  obtain ⟨hschema, htype⟩ := requestBody_of_hasInlineBody h registry
  rw [hfound] at hschema htype
  rw [bodyOf, extractRequestBody_of_ref hschema]
  exact ⟨hschema, htype, rfl⟩

/-- A body that stands for no named schema is moved to a component, and goes by the name of it. -/
theorem bodyOf_of_findReusable_eq_none (h : HasInlineBody a entry schema)
    (hextract : a.options.extract.requestBody = true)
    (hfound : Registry.findReusable registry.known (a.resolver.typeExpr (.inline schema)) = none) :
    ∃ made : NamedSchema, made.content = a.resolver.typeExpr (.inline schema)
      ∧ (a.bodyOf entry registry usage).value.schema = some (.ref made.path)
      ∧ (a.bodyOf entry registry usage).value.type = some made.typeName
      ∧ (a.bodyOf entry registry usage).registry.known = registry.known ++ [made] := by
  obtain ⟨hschema, -⟩ := requestBody_of_hasInlineBody h registry
  rw [hfound] at hschema
  obtain ⟨made, -, -, hcontent, hpath, hname, hknown⟩ := Registry.known_hoist a.resolver registry
    usage a.options.extract.requestBodySuffixes (.inline schema)
  rw [bodyOf, extractRequestBody_of_inline hextract hschema]
  exact ⟨made, hcontent, hpath ▸ rfl, hname ▸ rfl, hknown⟩

/-- Whichever way is taken, afterwards the body's expression stands for the schema that the body
refers to, and the body's type is the name of this schema up to null. -/
theorem findReusable_bodyOf (h : HasInlineBody a entry schema)
    (hextract : a.options.extract.requestBody = true)
    (hcomposite : Registry.isComposite (a.resolver.typeExpr (.inline schema)) = true)
    (registry : Registry) :
    ∃ found type,
      (a.bodyOf entry registry usage).value.schema = some (.ref found.path)
        ∧ (a.bodyOf entry registry usage).value.type = some type
        ∧ decorateNullable schema.permitsNull type
          = decorateNullable schema.permitsNull found.typeName
        ∧ Registry.findReusable (a.bodyOf entry registry usage).registry.known
            (a.resolver.typeExpr (.inline schema)) = some found := by
  cases hfound : Registry.findReusable registry.known (a.resolver.typeExpr (.inline schema)) with
  | some found =>
      obtain ⟨hschema, htype, hregistry⟩ := bodyOf_of_findReusable usage h hfound
      refine ⟨found, _, hschema, htype, decorateNullable_idem _ _, ?_⟩
      rw [hregistry]
      exact hfound
  | none =>
      obtain ⟨made, hcontent, hschema, htype, hknown⟩ :=
        bodyOf_of_findReusable_eq_none usage h hextract hfound
      refine ⟨made, _, hschema, htype, rfl, ?_⟩
      rw [hknown]
      exact Registry.findReusable_append_singleton hcomposite hfound hcontent

/-- Two such bodies, the second of which meets a registry that grew from the one the first left. -/
theorem bodies_eq_iff {first second : Document.Entry} {registry₁ registry₂ : Registry}
    {usage₁ usage₂ : String} (hextract : a.options.extract.requestBody = true)
    (hcomposite : Registry.isComposite (a.resolver.typeExpr (.inline schema)) = true)
    (hfirst : HasInlineBody a first schema) (hsecond : HasInlineBody a second schema)
    (hgrows : Registry.Grows a.resolver (a.bodyOf first registry₁ usage₁).registry registry₂)
    (hstandard : registry₂.Standard a.resolver) :
    let body₁ := (a.bodyOf first registry₁ usage₁).value
    let body₂ := (a.bodyOf second registry₂ usage₂).value
    (body₁.schema = body₂.schema ∧ body₁.type = body₂.type) ↔
      body₁.type.map (decorateNullable schema.permitsNull) = body₁.type
        ∧ ∀ named, registry₂.known.find? (·.typeName = a.resolver.typeExpr (.inline schema))
              = some named →
            body₁.schema = some (.ref named.path) := by
  intro body₁ body₂
  obtain ⟨found, type, hschema₁, htype₁, hnull, hfound⟩ :=
    findReusable_bodyOf usage₁ hfirst hextract hcomposite registry₁
  obtain ⟨more, hknown, -⟩ := hgrows
  have hlater := Registry.findReusable_append hcomposite hfound more
  rw [← hknown] at hlater
  obtain ⟨hschema₂, htype₂, -⟩ := bodyOf_of_findReusable usage₂ hsecond hlater
  rw [hschema₁, htype₁, hschema₂, htype₂]
  have hold : found ∈ registry₂.known :=
    hknown ▸ List.mem_append_left _ (Registry.mem_of_findReusable hfound)
  simp only [Option.some.injEq, OrRef.ref.injEq, Option.map_some]
  constructor
  · rintro ⟨hpath, htype⟩
    refine ⟨by rw [htype, decorateNullable_idem], fun named hnamed => ?_⟩
    rw [hnamed, Option.getD_some] at hpath
    exact hpath
  · rintro ⟨hkept, hnamed⟩
    have hpath : found.path = ((registry₂.known.find?
        (·.typeName = a.resolver.typeExpr (.inline schema))).getD found).path := by
      cases hname : registry₂.known.find?
          (·.typeName = a.resolver.typeExpr (.inline schema)) with
      | none => rfl
      | some named => exact hnamed named hname
    refine ⟨hpath, ?_⟩
    -- one path, one type name
    have hsame := (hstandard found hold).typeName_unique
      (hstandard _ (Registry.mem_of_findReusable hlater)) hpath
    rw [← hsame, ← hnull, hkept]

end Assembler

/-! ## Two operations of a run -/

/-- **Identical bodies.** In a successful run that moves request bodies to components, two
operations without form parameters whose inline bodies have the same content, the first schema of
which is inline with a composite type expression, get the same schema and the same type exactly when

- the type that the first one got stays as it is when null is added as the schema says, and
- a schema that has the type expression for its type name, if there is one by the time of the second
  operation, is the one that the first body refers to. -/
theorem sharedBodies_iff {doc : Document} {options : RouteOptions} {result : RunResult}
    {before between after : List Document.Entry} {first second : Document.Entry}
    {route₁ route₂ : Route} {body₁ body₂ : RequestBody} {schema : Schema}
    (h : run doc options = .ok result) (hextract : options.extract.requestBody = true)
    (hoperations : doc.operations = before ++ first :: between ++ second :: after)
    (hroute₁ : result.routes.routes[before.length]? = some route₁)
    (hroute₂ : result.routes.routes[(before ++ first :: between).length]? = some route₂)
    (hform₁ : route₁.routeParams.formData = []) (hform₂ : route₂.routeParams.formData = [])
    (hbody₁ : first.operation.requestBody = some (.inline body₁))
    (hbody₂ : second.operation.requestBody = some (.inline body₂))
    (hcontent : body₁.content = body₂.content)
    (hschema : firstSchema? body₁.content = some (.inline schema))
    (hcomposite : Registry.isComposite
      ((Resolver.ofDocument doc options.affixes).typeExpr (.inline schema)) = true) :
    (route₁.requestBody.schema = route₂.requestBody.schema
        ∧ route₁.requestBody.type = route₂.requestBody.type) ↔
      route₁.requestBody.type.map (decorateNullable schema.permitsNull) = route₁.requestBody.type
        ∧ ∀ named, (knownAfter doc options (before ++ first :: between)).find?
              (·.typeName = (Resolver.ofDocument doc options.affixes).typeExpr (.inline schema))
              = some named →
            route₁.requestBody.schema = some (.ref named.path) := by
  obtain ⟨template, progress, ha, hprogress, hroutes, -⟩ := routes_of_run h
  rw [hroutes] at hroute₁ hroute₂
  rw [hoperations] at hprogress
  -- the run up to the second operation, and within it the run up to the first one
  obtain ⟨m₂, n₂, hm₂, hn₂, hq⟩ := Progress.advanceAll_split hprogress
  obtain ⟨m₁, n₁, hm₁, hn₁, hlater⟩ := Progress.advanceAll_split hm₂
  have hprefix₂ : n₂.routes <+: progress.routes := Progress.prefix_of_advanceAll hq
  have hprefix₁ : n₁.routes <+: progress.routes :=
    (Progress.prefix_of_advanceAll hlater).trans ((Progress.prefix_of_advance hn₂).trans hprefix₂)
  obtain ⟨base₁, args₁, -, -, hstate, hat₁⟩ := Progress.route_at rfl hm₁ hn₁ hprefix₁
  obtain ⟨base₂, args₂, -, -, -, hat₂⟩ := Progress.route_at rfl hm₂ hn₂ hprefix₂
  obtain rfl := Option.some.inj (hroute₁.symm.trans hat₁)
  obtain rfl := Option.some.inj (hroute₂.symm.trans hat₂)
  rw [knownAfter_eq ha hm₂]
  have hfirst : HasInlineBody (.plain doc options template) first schema :=
    ⟨hform₁, body₁, hbody₁, hschema⟩
  have hsecond : HasInlineBody (.plain doc options template) second schema :=
    ⟨hform₂, body₂, hbody₂, hcontent ▸ hschema⟩
  have hgrows := Progress.grows_advanceAll hlater
  rw [hstate] at hgrows
  have hall := (Assembler.grows_stateAfter_bodyOf _ first m₁.state base₁).trans hgrows
  rw [Assembler.routeOf_requestBody_schema, Assembler.routeOf_requestBody_type,
    Assembler.routeOf_requestBody_schema, Assembler.routeOf_requestBody_type]
  exact Assembler.bodies_eq_iff hextract hcomposite hfirst hsecond hall
    (Progress.standard_advanceAll hm₂)

/-- A body that may be null. -/
def nullableBody : RequestBody :=
  { content := [("application/json", { schema := some (.inline {
      schemaType := some (.single .object)
      nullable := some true
      properties := [("name", .inline .string)] }) })] }

/-- Two operations with the same body. -/
def petsDocument : Document :=
  { openapi := "3.0.0"
    info := { title := "Pets", version := "1" }
    paths := [("/pets", { operations := [
      (.post, { operationId := some "createPet", requestBody := some (.inline nullableBody) }),
      (.put, { operationId := some "updatePet", requestBody := some (.inline nullableBody) })] })] }

/-- The first of two equal bodies loses the null that the second one keeps. -/
theorem bodies_not_shared_pets :
    ∃ result route₁ route₂,
      run petsDocument { extract := { requestBody := true } } = .ok result
        ∧ result.routes.routes = [route₁, route₂]
        ∧ route₁.requestBody.type = some "CreatePetPayload"
        ∧ route₂.requestBody.type = some "CreatePetPayload | null"
        ∧ ¬ (route₁.requestBody.schema = route₂.requestBody.schema
          ∧ route₁.requestBody.type = route₂.requestBody.type) := by
  obtain ⟨result, hrun, hroutes⟩ := exists_ok_of_map
    (show (run petsDocument { extract := { requestBody := true } }).toOption.map (fun result =>
        result.routes.routes.map fun route =>
          (route.routeParams.formData.length, route.requestBody.type))
      = some [(0, some "CreatePetPayload"), (0, some "CreatePetPayload | null")] by decide +kernel)
  obtain ⟨route₁, rest, hall, hfirst, hrest⟩ := List.map_eq_cons_iff.mp hroutes
  obtain ⟨route₂, last, rfl, hsecond, hlast⟩ := List.map_eq_cons_iff.mp hrest
  obtain rfl := List.map_eq_nil_iff.mp hlast
  obtain ⟨hform₁, htype₁⟩ := Prod.mk.inj hfirst
  obtain ⟨hform₂, htype₂⟩ := Prod.mk.inj hsecond
  refine ⟨result, route₁, route₂, hrun, hall, htype₁, htype₂, fun hshared => ?_⟩
  obtain ⟨first, second, hoperations, hbody₁, hbody₂⟩ : ∃ first second,
      petsDocument.operations = [] ++ first :: [] ++ second :: []
        ∧ first.operation.requestBody = some (.inline nullableBody)
        ∧ second.operation.requestBody = some (.inline nullableBody) := ⟨_, _, rfl, rfl, rfl⟩
  obtain ⟨hnull, -⟩ := (sharedBodies_iff hrun rfl hoperations (by rw [hall]; rfl)
    (by rw [hall]; rfl) (List.length_eq_zero_iff.mp hform₁) (List.length_eq_zero_iff.mp hform₂)
    hbody₁ hbody₂ rfl rfl (by decide +kernel)).mp hshared
  rw [htype₁] at hnull
  exact absurd hnull (by decide +kernel)

end ApiRoutes
