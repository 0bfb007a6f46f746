import ApiRoutes.Proofs.Naming.Numbering
import ApiRoutes.Proofs.Route.TypedBodies

/-!
# References in the routes of a run

Schema and type of a body are written apart from each other, and the components that they name come
about along the run. Still they belong together in every route that a run makes, whichever registry
of the run the named schemas are looked up in: a path is rendered as one type name at all times
(`Registry.Sound.typeExpr_ref`), and a body that refers to a path has the rendered reference for its
type (`typed_requestBody_routeOf`, `typed_responses_routeOf`).

`integrity_of_run` is about all documents whose schemas have names without slashes and different
type names, and all suffixes without slashes.
-/

namespace ApiRoutes

/-- A type that is the type name of a schema, perhaps with null. -/
def NamedSchema.IsTypeUpToNull (schema : NamedSchema) (type : String) : Prop :=
  type = schema.typeName ∨ type = schema.typeName ++ " | null"

/-- Wherever a body of the route refers to a schema, its type is the type name of the schema,
perhaps with null. -/
structure Route.NamesWhatItRefersTo (route : Route) (schema : NamedSchema) : Prop where
  requestBody : route.requestBody.schema = some (.ref schema.path) →
    ∃ type, route.requestBody.type = some type ∧ schema.IsTypeUpToNull type
  responses : ∀ response ∈ route.responseBody.responses,
    response.schema = some (.ref schema.path) → schema.IsTypeUpToNull response.type

theorem Route.namesWhatItRefersTo {r : Resolver} {route : Route} {schema : NamedSchema}
    (hbody : route.requestBody.Typed r)
    (hresponses : ∀ response ∈ route.responseBody.responses, response.Typed r)
    (h : r.typeExpr (.ref schema.path) = schema.typeName) : route.NamesWhatItRefersTo schema := by
  constructor
  · intro hschema
    obtain ⟨nullable, htype⟩ := hbody _ hschema
    rw [h] at htype
    exact ⟨_, htype, decorateNullable_cases nullable _⟩
  · intro response hresponse hschema
    obtain ⟨nullable, htype⟩ := hresponses response hresponse _ hschema
    rw [h] at htype
    rw [htype]
    exact decorateNullable_cases nullable _

/-- A document whose schemas can be referred to by name and told apart by their type names. -/
structure Document.NamesApart (doc : Document) (affixes : Affixes) : Prop where
  slash_not_mem : ∀ name ∈ doc.parts.schemas.keys, '/' ∉ name.toList
  nodup_typeName : (doc.parts.schemas.keys.map affixes.typeName).Nodup

/-- **References.** Let the schemas of a document have names without slashes and different type
names, and let the suffixes of component names have no slash. Then every registry that a run comes
to is sound; and every route of the run gives a body that refers to a schema of such a registry the
type name of the schema, perhaps with null. -/
theorem integrity_of_run {doc : Document} {options : RouteOptions}
    (hnames : doc.NamesApart options.affixes)
    (hsuffixes : options.extract.SuffixesReferable) :
    (∀ registry, Reached doc options registry →
        registry.Sound (.ofDocument doc options.affixes))
      ∧ ∀ result, run doc options = .ok result → ∀ registry, Reached doc options registry →
        ∀ route ∈ result.routes.routes, ∀ schema ∈ registry.known,
          route.NamesWhatItRefersTo schema := by
  have hsound : ∀ registry, Reached doc options registry →
      registry.Sound (.ofDocument doc options.affixes) := fun registry hreached =>
    hreached.hoists.sound hsuffixes hnames.slash_not_mem hnames.nodup_typeName
  refine ⟨hsound, fun result h registry hreached route hroute schema hschema => ?_⟩
  obtain ⟨template, progress, ha, hprogress, hroutes, -⟩ := routes_of_run h
  rw [hroutes] at hroute
  obtain ⟨done, entry, m, base, args, hprefix, hm, -, -, rfl⟩ :=
    Progress.exists_step_of_mem_routes rfl hprogress route hroute
  have hbefore : Reached doc options m.state.registry :=
    ⟨_, done, m, ha, hm, .inl ⟨(List.prefix_append _ _).trans hprefix, rfl⟩⟩
  have hknown : AreReferable (.ofDocument doc options.affixes) m.state.registry.known :=
    hbefore.hoists.areReferable hsuffixes (Registry.areReferable_ofResolver hnames.slash_not_mem)
  exact Route.namesWhatItRefersTo
    (Assembler.typed_requestBody_routeOf entry base args hsuffixes hknown)
    (Assembler.typed_responses_routeOf entry base args hsuffixes hknown)
    ((hsound registry hreached).typeExpr_ref schema hschema)

/-- An object that may be null. -/
def draftSchema : Schema :=
  { schemaType := some (.single .object)
    nullable := some true
    properties := [("name", .inline .string)] }

/-- A document with a schema for pets, and two operations with the same draft for a body. -/
def draftsDocument : Document :=
  let draft : OrRef RequestBody :=
    .inline { content := [("application/json", { schema := some (.inline draftSchema) })] }
  let pet : OrRef Response := .inline { content := [("application/json",
    { schema := some (.ref "#/components/schemas/pet") })] }
  { openapi := "3.0.0"
    info := { title := "Drafts", version := "1" }
    paths := [("/pets", { operations := [
      (.post, {
        operationId := some "addPet", requestBody := some draft, responses := [("200", pet)] }),
      (.put, {
        operationId := some "setPet", requestBody := some draft, responses := [("200", pet)] })] })]
    components := some { schemas := [("pet", .inline (.object [("id", .inline .string)] []))] } }

/-- The pet is the document's own and the draft becomes a component; both are referred to by their
type names. -/
theorem integrity_of_drafts : ∃ result registry,
    run draftsDocument { extract := { requestBody := true } } = .ok result
      ∧ Reached draftsDocument { extract := { requestBody := true } } registry
      ∧ registry.Sound (.ofDocument draftsDocument {})
      ∧ registry.created.map (·.typeName) = ["AddPetPayload"]
      ∧ (∀ route ∈ result.routes.routes, ∀ schema ∈ registry.known,
          route.NamesWhatItRefersTo schema)
      ∧ result.routes.routes.map (fun route =>
          (route.requestBody.type, route.responseBody.responses.map (·.type)))
        = [(some "AddPetPayload", ["Pet"]), (some "AddPetPayload | null", ["Pet"])] := by
  obtain ⟨result, hrun, hmade⟩ := exists_ok_of_map
    (show (run draftsDocument { extract := { requestBody := true } }).toOption.map (fun result =>
        (result.routes.components.map (·.typeName), result.routes.routes.map fun route =>
          (route.requestBody.type, route.responseBody.responses.map (·.type))))
      = some (["AddPetPayload"],
          [(some "AddPetPayload", ["Pet"]), (some "AddPetPayload | null", ["Pet"])]) by
      decide +kernel)
  obtain ⟨hcomponents, hroutes⟩ := Prod.mk.inj hmade
  obtain ⟨registry, hreached, hcreated⟩ := reached_of_run hrun
  obtain ⟨hsound, hnamed⟩ := @integrity_of_run draftsDocument { extract := { requestBody := true } }
    ⟨by decide, by decide +kernel⟩ (by unfold ExtractOptions.SuffixesReferable; decide)
  rw [hcreated] at hcomponents
  exact ⟨result, registry, hrun, hreached, hsound registry hreached, hcomponents,
    hnamed result hrun registry hreached, hroutes⟩

end ApiRoutes
