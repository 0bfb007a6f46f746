import ApiRoutes.Proofs.Naming.Numbering
import ApiRoutes.Proofs.Run.Skeleton
import ApiRoutes.Proofs.Types.Growth

/-!
# What extraction leaves alone

Two runs over one document may differ in what they extract. Then they differ in types and schemas,
and components of the one run may be reused by later operations of that run only; the skeletons of
their routes and the modules are the same.

There is one exception. Whether a JSON body is sent as form data is decided by its type: by whether
a field of it holds a file. The type of a body that was replaced by the name of a component shows no
field. `alike_run` says of every route when its content kind is the same in both runs.
-/

namespace ApiRoutes

/-! ## Content kinds -/

namespace Assembler

/-- The type of an operation's declared body, as it is before the body is moved to a component. -/
def declaredType (r : Resolver) (known : List NamedSchema) (op : Operation) : Option String :=
  (op.requestBody.map fun entry =>
    ResolvedBody.ofNode r known op.operationId none (.request entry)).map fun body =>
      decorateNullable body.nullable body.type

/-- Whether that type shows a field that holds a file. -/
def showsFile (r : Resolver) (known : List NamedSchema) (op : Operation) : Bool :=
  ((declaredType r known op).map hasFileField).getD false

section

variable (r : Resolver) (registry other : Registry) (op : Operation) {params : RouteParams}

theorem contentKind_of_formData {param : RouteParam} {rest : List RouteParam}
    (h : params.formData = param :: rest) :
    (requestBody r registry op params).contentKind = .formData := by
  simp only [requestBody, h]

theorem contentKind_of_body (h : params.formData = []) :
    (requestBody r registry op params).contentKind =
      let kind := ContentKind.classify (requestBody r registry op params).contentTypes
      if kind = .json && showsFile r registry.known op then .formData else kind := by
  simp only [requestBody, h]
  rfl

/-- Two registries give a body the same content kind, unless it is declared as JSON and its type
shows a file with one registry only. -/
theorem contentKind_requestBody_eq_iff (params : RouteParams) :
    (requestBody r registry op params).contentKind = (requestBody r other op params).contentKind ↔
      (params.formData = [] →
        ContentKind.classify (requestBody r registry op params).contentTypes = .json →
          showsFile r registry.known op = showsFile r other.known op) := by
  have htypes : (requestBody r registry op params).contentTypes
      = (requestBody r other op params).contentTypes :=
    (RequestBodyInfo.mk.inj (skeleton_requestBody r op params registry other)).2.1
  cases hform : params.formData with
  | cons param rest =>
      rw [contentKind_of_formData r registry op hform, contentKind_of_formData r other op hform]
      simp
  | nil =>
      rw [contentKind_of_body r registry op hform, contentKind_of_body r other op hform, ← htypes]
      by_cases hjson :
          ContentKind.classify (requestBody r registry op params).contentTypes = .json
      · cases showsFile r registry.known op <;> cases showsFile r other.known op <;> simp [hjson]
      · simp [hjson]

end

/-- Neither moving a body to a component nor naming its argument changes its content kind. -/
theorem content_routeOf (a : Assembler) (entry : Document.Entry) (state : RunState)
    (base : String) (args : SpecificArgs) :
    let route := a.routeOf entry state base args
    let body := requestBody a.resolver state.registry entry.operation (a.paramsOf entry)
    route.requestBody.contentKind = body.contentKind
      ∧ route.requestBody.contentTypes = body.contentTypes := by
  intro route body
  have hrename : ∀ body : RequestBodyInfo, (renameBody body args).contentKind = body.contentKind
      ∧ (renameBody body args).contentTypes = body.contentTypes := by
    intro body
    unfold renameBody
    split <;> exact ⟨rfl, rfl⟩
  have hextract : ∀ usage, (a.bodyOf entry state.registry usage).value.contentKind
        = body.contentKind
      ∧ (a.bodyOf entry state.registry usage).value.contentTypes = body.contentTypes := by
    intro usage
    unfold bodyOf extractRequestBody
    split <;> exact ⟨rfl, rfl⟩
  obtain ⟨hkind, htypes⟩ := hextract (a.nameOf entry state.names base).1.usage
  exact ⟨(hrename _).1.trans hkind, (hrename _).2.trans htypes⟩

end Assembler

/-! ## Two runs over one document -/

/-- What two runs over a document have in common that differ in what they extract. -/
structure SameUpToTypes (doc : Document) (options : RouteOptions) (extract : ExtractOptions)
    (result other : RunResult) : Prop where
  skeletons : result.routes.routes.map Route.skeleton = other.routes.routes.map Route.skeleton
  modules : result.routes.modules = other.routes.modules
  outOfModule : result.routes.outOfModule = other.routes.outOfModule
  /-- The content kinds of an operation's routes agree, unless its body is declared as JSON and the
  type of the body shows a file in one of the runs only. -/
  contentKind_iff : ∀ before entry after route route',
    doc.operations = before ++ entry :: after →
    result.routes.routes[before.length]? = some route →
    other.routes.routes[before.length]? = some route' →
      (route.requestBody.contentKind = route'.requestBody.contentKind ↔
        (route.routeParams.formData = [] →
          ContentKind.classify route.requestBody.contentTypes = .json →
            Assembler.showsFile (.ofDocument doc options.affixes) (knownAfter doc options before)
                entry.operation
              = Assembler.showsFile (.ofDocument doc options.affixes)
                (knownAfter doc { options with extract } before) entry.operation))

section

variable {doc : Document} {options : RouteOptions} {a : Assembler} {p q : Progress}

/-- The route of an operation, and the schemas that had a name when it was made. -/
theorem exists_routeOf (ha : Assembler.ofDocument doc options .none none = .ok a)
    (hhooks : a.hooks = .none) (hp : (Progress.start a).advanceAll a doc.operations = .ok p)
    {before after : List Document.Entry} {entry : Document.Entry} {route : Route}
    (hoperations : doc.operations = before ++ entry :: after)
    (hroute : p.routes[before.length]? = some route) :
    ∃ state base args, route = a.routeOf entry state base args
      ∧ knownAfter doc options before = state.registry.known := by
  rw [hoperations] at hp
  obtain ⟨m, n, hm, hn, hlater⟩ := Progress.advanceAll_split hp
  obtain ⟨base, args, -, -, -, hat⟩ :=
    Progress.route_at hhooks hm hn (Progress.prefix_of_advanceAll hlater)
  exact ⟨m.state, base, args, Option.some.inj (hroute.symm.trans hat), knownAfter_eq ha hm⟩

theorem sameUpToTypes_finish {extract : ExtractOptions} (hhooks : a.hooks = .none)
    (ha : Assembler.ofDocument doc options .none none = .ok a)
    (ha' : Assembler.ofDocument doc { options with extract } .none none
      = .ok (a.withExtract extract))
    (hp : (Progress.start a).advanceAll a doc.operations = .ok p)
    (hq : (Progress.start (a.withExtract extract)).advanceAll (a.withExtract extract)
      doc.operations = .ok q)
    (hsame : p.SameSkeleton q) :
    SameUpToTypes doc options extract (p.finish doc options)
      (q.finish doc { options with extract }) := by
  have hroutes := routes_finish hhooks hp doc options
  have hroutes' := routes_finish (a := a.withExtract extract) hhooks hq doc
    { options with extract }
  -- modules are made from names and namespaces alone, which are in the skeletons
  have hgroups : RouteGroups.ofRoutes options.modules (p.finish doc options).routes.routes
      = RouteGroups.ofRoutes options.modules
        (q.finish doc { options with extract }).routes.routes := by
    rw [hroutes, hroutes', ← RouteGroups.ofRoutes_map_skeleton, hsame.routes,
      RouteGroups.ofRoutes_map_skeleton]
  refine ⟨?_, congrArg RouteGroups.modules hgroups, congrArg RouteGroups.outOfModule hgroups, ?_⟩
  · rw [hroutes, hroutes']
    exact hsame.routes
  · intro before entry after route route' hoperations hroute hroute'
    rw [hroutes] at hroute
    rw [hroutes'] at hroute'
    obtain ⟨state, base, args, rfl, hknown⟩ := exists_routeOf ha hhooks hp hoperations hroute
    obtain ⟨state', base', args', rfl, hknown'⟩ :=
      exists_routeOf ha' hhooks hq hoperations hroute'
    obtain ⟨template, -, hplain⟩ := bind_ok ha
    cases hplain
    obtain ⟨hkind, htypes⟩ := Assembler.content_routeOf _ entry state base args
    obtain ⟨hkind', -⟩ := Assembler.content_routeOf _ entry state' base' args'
    rw [hknown, hknown', hkind, hkind', htypes]
    exact Assembler.contentKind_requestBody_eq_iff _ _ _ _ _

end

/-- **What extraction changes.** Two runs over a document with default hooks, whose options differ
in what they extract, fail with the same error or both succeed. Then their routes have the same
skeletons one by one, their modules are the same, and the content kind of an operation's route is
the same in both exactly when the type of its JSON body shows a file in both or in neither. -/
theorem alike_run (doc : Document) (options : RouteOptions) (extract : ExtractOptions) :
    Alike (SameUpToTypes doc options extract) (run doc options)
      (run doc { options with extract }) := by
  have hassemblers : Alike (fun a a' => a.hooks = .none ∧ a' = a.withExtract extract)
      (Assembler.ofDocument doc options .none none)
      (Assembler.ofDocument doc { options with extract } .none none) := by
    refine (Alike.of_refl (fun _ => rfl) _).bind ?_
    rintro template _ rfl
    exact .ok ⟨rfl, rfl⟩
  refine hassemblers.and_ok.bind ?_
  rintro a _ ⟨⟨hhooks, rfl⟩, ha, ha'⟩
  refine (Progress.alike_advanceAll hhooks extract doc.operations).and_ok.bind ?_
  rintro p q ⟨hsame, hp, hq⟩
  exact .ok (sameUpToTypes_finish hhooks ha ha' hp hq hsame)

/-- A body with a file, declared as JSON. -/
def attachmentBody : RequestBody :=
  { content := [("application/json", { schema := some (.inline (.object [("file",
      .inline { schemaType := some (.single .string), format := some "binary" })] [])) })] }

/-- Two operations with the same body. -/
def attachmentsDocument : Document :=
  { openapi := "3.0.0"
    info := { title := "Attachments", version := "1" }
    paths := [("/attachments", { operations := [
      (.post, {
        operationId := some "addAttachment", requestBody := some (.inline attachmentBody) }),
      (.put, {
        operationId := some "setAttachment", requestBody := some (.inline attachmentBody) })] })] }

/-- With extraction the second body goes by the name of the first one's component, which shows no
file, and is not sent as form data any more. -/
theorem contentKind_of_attachments : ∃ result other,
    run attachmentsDocument {} = .ok result
      ∧ run attachmentsDocument { extract := { requestBody := true } } = .ok other
      ∧ SameUpToTypes attachmentsDocument {} { requestBody := true } result other
      ∧ result.routes.routes.map (·.requestBody.contentKind) = [.formData, .formData]
      ∧ other.routes.routes.map (·.requestBody.contentKind) = [.formData, .json] := by
  obtain ⟨result, hrun, hkinds⟩ := exists_ok_of_map
    (show (run attachmentsDocument {}).toOption.map
        (fun result => result.routes.routes.map (·.requestBody.contentKind))
      = some [.formData, .formData] by decide +kernel)
  obtain ⟨other, hother, hkinds'⟩ := exists_ok_of_map
    (show (run attachmentsDocument { extract := { requestBody := true } }).toOption.map
        (fun result => result.routes.routes.map (·.requestBody.contentKind))
      = some [.formData, .json] by decide +kernel)
  have halike := alike_run attachmentsDocument {} { requestBody := true }
  rw [hrun, hother] at halike
  cases halike with
  | ok hsame => exact ⟨result, other, hrun, hother, hsame, hkinds, hkinds'⟩

end ApiRoutes
