import ApiRoutes.Proofs.Run.Trace

/-!
# How the registry grows

The registry changes in one way only: a schema of a route is moved to a component (`hoist`). So the
registry at one moment of a run comes from the registry at an earlier moment by such moves
(`Registry.Hoists`, `Progress.hoists_advanceAll`), and what a move keeps, a run keeps. In particular
named schemas are added at the end and none that is there changes (`Registry.Grows`).

Every schema in a registry goes by the type name of its own name, and its path ends with that name
(`NamedSchema.IsStandard`): one path, one type name.

A run comes to a registry not only between operations, but also after each stage of one
(`Reached`).
-/

namespace ApiRoutes

/-! ## Standard schemas -/

/-- A schema whose path and type name are made from its name. -/
structure NamedSchema.IsStandard (r : Resolver) (schema : NamedSchema) : Prop where
  path_eq : schema.path = "#/components/schemas/" ++ schema.name
  typeName_eq : schema.typeName = r.typeName schema.name

/-- Two standard schemas with one path have one type name. -/
theorem NamedSchema.IsStandard.typeName_unique {r : Resolver} {first second : NamedSchema}
    (h : first.IsStandard r) (h' : second.IsStandard r) (hpath : first.path = second.path) :
    first.typeName = second.typeName := by
  have hname : first.name = second.name := by
    have hchars := congrArg String.toList (h.path_eq.symm.trans (hpath.trans h'.path_eq))
    rw [String.toList_append, String.toList_append] at hchars
    exact String.toList_inj.mp (List.append_cancel_left hchars)
  rw [h.typeName_eq, h'.typeName_eq, hname]

/-! ## Growth -/

namespace Registry

/-- The later registry has the schemas of the earlier one and standard ones after them. -/
def Grows (r : Resolver) (registry later : Registry) : Prop :=
  ∃ more, later.known = registry.known ++ more ∧ ∀ schema ∈ more, schema.IsStandard r

variable {r : Resolver} {registry between later : Registry}

theorem Grows.refl (r : Resolver) (registry : Registry) : Grows r registry registry :=
  ⟨[], (List.append_nil _).symm, fun _ hnil => nomatch hnil⟩

theorem Grows.trans (h : Grows r registry between) (h' : Grows r between later) :
    Grows r registry later := by
  obtain ⟨more, hknown, hmore⟩ := h
  obtain ⟨more', hknown', hmore'⟩ := h'
  refine ⟨more ++ more', by rw [hknown', hknown, List.append_assoc], fun schema hschema => ?_⟩
  rcases List.mem_append.mp hschema with hfirst | hsecond
  · exact hmore schema hfirst
  · exact hmore' schema hsecond

/-- All schemas are standard. -/
def Standard (r : Resolver) (registry : Registry) : Prop :=
  ∀ schema ∈ registry.known, schema.IsStandard r

theorem Grows.standard (h : Grows r registry later) (hall : registry.Standard r) :
    later.Standard r := by
  obtain ⟨more, hknown, hmore⟩ := h
  intro schema hschema
  rw [hknown] at hschema
  rcases List.mem_append.mp hschema with hold | hnew
  · exact hall schema hold
  · exact hmore schema hnew

/-- The document's own schemas are. -/
theorem standard_ofResolver (r : Resolver) : (ofResolver r).Standard r := by
  intro schema hschema
  obtain ⟨⟨name, schema⟩, -, rfl⟩ := List.mem_map.mp hschema
  exact ⟨rfl, rfl⟩

/-! ## Schemas that are found -/

theorem mem_of_findReusable {known : List NamedSchema} {type : String} {found : NamedSchema}
    (h : findReusable known type = some found) : found ∈ known := by
  unfold findReusable at h
  split at h
  · cases h
    exact List.mem_of_find?_eq_some ‹_›
  · split at h
    · exact List.mem_of_find?_eq_some h
    · cases h

/-! ## Extractions -/

/-- Moving a schema to a component adds one standard schema with the content of the schema, under a
name that is chosen among the suffixes. -/
theorem known_hoist (r : Resolver) (registry : Registry) (usage : String) (suffixes : List String)
    (schema : OrRef Schema) :
    ∃ made : NamedSchema, made.name = registry.chooseName r (componentNames usage suffixes)
      ∧ made.IsStandard r ∧ made.content = r.typeExpr schema
      ∧ made.path = (hoist r registry usage suffixes schema).1.path
      ∧ made.typeName = (hoist r registry usage suffixes schema).1.typeName
      ∧ (hoist r registry usage suffixes schema).2.known = registry.known ++ [made] :=
  ⟨_, rfl, ⟨rfl, rfl⟩, rfl, rfl, rfl, rfl⟩

end Registry

/-- The suffixes of component names, a list for each kind of schema that is moved. -/
def ExtractOptions.suffixLists (options : ExtractOptions) : List (List String) :=
  [options.requestBodySuffixes, options.requestParamsSuffixes, options.responseBodySuffixes,
    options.responseErrorSuffixes]

namespace Registry

/-- The later registry comes from the earlier one by moving schemas to components, whose names end
in suffixes of the options. -/
inductive Hoists (r : Resolver) (options : ExtractOptions) (registry : Registry) : Registry → Prop
  | refl : Hoists r options registry registry
  | step {later : Registry} {suffixes : List String} (h : Hoists r options registry later)
      (hsuffixes : suffixes ∈ options.suffixLists) (usage : String) (schema : OrRef Schema) :
      Hoists r options registry (hoist r later usage suffixes schema).2

variable {options : ExtractOptions}

theorem Hoists.trans (h : Hoists r options registry between) (h' : Hoists r options between later) :
    Hoists r options registry later := by
  induction h' with
  | refl => exact h
  | step _ hsuffixes usage schema ih => exact ih.step hsuffixes usage schema

theorem Hoists.grows (h : Hoists r options registry later) : Grows r registry later := by
  induction h with
  | refl => exact .refl r registry
  | @step later suffixes h hsuffixes usage schema ih =>
      obtain ⟨made, -, hmade, -, -, -, hknown⟩ := known_hoist r later usage suffixes schema
      exact ih.trans ⟨[made], hknown, fun schema hschema => List.mem_singleton.mp hschema ▸ hmade⟩

/-- Created components stay, and later ones follow them. -/
theorem Hoists.prefix_created (h : Hoists r options registry later) :
    registry.created <+: later.created := by
  induction h with
  | refl => exact List.prefix_refl _
  | step _ _ _ _ ih => exact ih.trans (List.prefix_append _ _)

variable (r registry) (options : ExtractOptions) (usage : String)

theorem hoists_extractRequestBody (body : RequestBodyInfo) :
    Hoists r options registry (extractRequestBody r registry options usage body).registry := by
  unfold extractRequestBody
  split
  · exact .step .refl (by simp [ExtractOptions.suffixLists]) _ _
  · exact .refl

theorem hoists_extractResponseBody (info : ResponseBodyInfo) :
    Hoists r options registry (extractResponseBody r registry options usage info).registry := by
  unfold extractResponseBody
  split
  · split
    · split
      · exact .step .refl (by simp [ExtractOptions.suffixLists]) _ _
      · exact .refl
    · exact .refl
  · exact .refl

theorem hoists_extractResponseError (info : ResponseBodyInfo) :
    Hoists r options registry (extractResponseError r registry options usage info).registry := by
  unfold extractResponseError
  split
  · exact .step .refl (by simp [ExtractOptions.suffixLists]) _ _
  · exact .refl

theorem hoists_extractRequestParams (schema : Schema) :
    Hoists r options registry (extractRequestParams r registry options usage schema).registry := by
  unfold extractRequestParams
  split
  · exact .step .refl (by simp [ExtractOptions.suffixLists]) _ _
  · exact .refl

end Registry

/-! ## Operations and runs -/

namespace Assembler

variable (a : Assembler) (entry : Document.Entry)

theorem hoists_requestParams (registry : Registry) (usage : String) (params : RouteParams) :
    Registry.Hoists a.resolver a.options.extract registry
      (a.requestParams registry usage params).registry := by
  unfold requestParams
  split
  · exact .refl
  · exact Registry.hoists_extractRequestParams _ _ _ _ _

/-- The registries that the stages of an operation leave, in order. -/
def registriesOf (registry : Registry) (usage : String) : List Registry :=
  [(a.bodyOf entry registry usage).registry, (a.successOf entry registry usage).registry,
    (a.errorOf entry registry usage).registry, (a.requestParamsOf entry registry usage).registry]

/-- What follows the body only adds to the registry that the body left. -/
theorem grows_stateAfter_bodyOf (state : RunState) (base : String) :
    Registry.Grows a.resolver
      (a.bodyOf entry state.registry (a.nameOf entry state.names base).1.usage).registry
      (a.stateAfter entry state base).registry :=
  ((Registry.hoists_extractResponseBody _ _ _ _ _).trans
    ((Registry.hoists_extractResponseError _ _ _ _ _).trans (a.hoists_requestParams _ _ _))).grows

theorem hoists_of_mem_registriesOf {registry later : Registry} {usage : String}
    (h : later ∈ a.registriesOf entry registry usage) :
    Registry.Hoists a.resolver a.options.extract registry later := by
  have hbody := Registry.hoists_extractRequestBody a.resolver registry a.options.extract usage
    (requestBody a.resolver registry entry.operation (a.paramsOf entry))
  have hsuccess := hbody.trans (Registry.hoists_extractResponseBody _ _ _ usage
    (a.responsesOf entry registry usage))
  have herror := hsuccess.trans (Registry.hoists_extractResponseError _ _ _ usage
    (a.successOf entry registry usage).value)
  simp only [registriesOf, List.mem_cons, List.not_mem_nil, or_false] at h
  rcases h with rfl | rfl | rfl | rfl
  · exact hbody
  · exact hsuccess
  · exact herror
  · exact herror.trans (a.hoists_requestParams _ _ _)

theorem hoists_stateAfter (state : RunState) (base : String) :
    Registry.Hoists a.resolver a.options.extract state.registry
      (a.stateAfter entry state base).registry :=
  a.hoists_of_mem_registriesOf entry (List.mem_of_getElem? (i := 3) rfl)

end Assembler

namespace Progress

variable {a : Assembler} {p q : Progress}

/-- Along a run schemas are moved to components. -/
theorem hoists_advanceAll {entries : List Document.Entry} (h : p.advanceAll a entries = .ok q) :
    Registry.Hoists a.resolver a.options.extract p.state.registry q.state.registry := by
  refine advanceAll_induction
    (motive := fun _ m =>
      Registry.Hoists a.resolver a.options.extract p.state.registry m.state.registry)
    .refl (fun _ hhoists hstep => ?_) h
  obtain ⟨outcome, hmade, -, hstate⟩ := advance_ok hstep
  obtain ⟨base, args, -, -, -, hafter⟩ := Assembler.assemble_ok hmade
  rw [hstate, hafter]
  exact hhoists.trans (a.hoists_stateAfter _ _ _)

/-- After an operation, the rest of a run only moves further schemas to components. -/
theorem hoists_of_step (hhooks : a.hooks = .none) {done entries : List Document.Entry}
    {entry : Document.Entry} {base : String} (hdone : done ++ [entry] <+: entries)
    (hp : (start a).advanceAll a done = .ok p) (hbase : a.askedName entry = .ok base)
    (hq : (start a).advanceAll a entries = .ok q) :
    Registry.Hoists a.resolver a.options.extract (a.stateAfter entry p.state base).registry
      q.state.registry := by
  obtain ⟨after, rfl⟩ := hdone
  rw [List.append_assoc] at hq
  obtain ⟨m, n, hm, hn, hlater⟩ := advanceAll_split hq
  cases hm.symm.trans hp
  obtain ⟨base', -, hbase', -, -, hstate⟩ := advance_plain hhooks hn
  cases hbase'.symm.trans hbase
  rw [← hstate]
  exact hoists_advanceAll hlater

theorem grows_advanceAll {entries : List Document.Entry} (h : p.advanceAll a entries = .ok q) :
    Registry.Grows a.resolver p.state.registry q.state.registry :=
  (hoists_advanceAll h).grows

/-- At every moment of a run all named schemas are standard. -/
theorem standard_advanceAll {entries : List Document.Entry}
    (h : (start a).advanceAll a entries = .ok q) : q.state.registry.Standard a.resolver :=
  (grows_advanceAll h).standard (Registry.standard_ofResolver _)

end Progress

/-- The schemas that have a name after some operations of a run with default hooks. -/
def knownAfter (doc : Document) (options : RouteOptions) (entries : List Document.Entry) :
    List NamedSchema :=
  match Assembler.ofDocument doc options .none none with
  | .error _ => []
  | .ok a =>
    match (Progress.start a).advanceAll a entries with
    | .error _ => []
    | .ok progress => progress.state.registry.known

theorem knownAfter_eq {doc : Document} {options : RouteOptions} {entries : List Document.Entry}
    {a : Assembler} {progress : Progress} (ha : Assembler.ofDocument doc options .none none = .ok a)
    (h : (Progress.start a).advanceAll a entries = .ok progress) :
    knownAfter doc options entries = progress.state.registry.known := by
  rw [knownAfter, ha]
  simp only [h]

/-! ## Registries of a run -/

/-- A registry that a run with default hooks comes to: after some of the operations, or after a
stage of the next one. The run may fail later. -/
def Reached (doc : Document) (options : RouteOptions) (registry : Registry) : Prop :=
  ∃ a done progress, Assembler.ofDocument doc options .none none = .ok a
    ∧ (Progress.start a).advanceAll a done = .ok progress
    ∧ (done <+: doc.operations ∧ registry = progress.state.registry
      ∨ ∃ entry base, done ++ [entry] <+: doc.operations ∧ a.askedName entry = .ok base
        ∧ registry ∈ a.registriesOf entry progress.state.registry
          (a.nameOf entry progress.state.names base).1.usage)

/-- A run starts with the registry of the document's own schemas. -/
theorem reached_start {doc : Document} {options : RouteOptions} {a : Assembler}
    (ha : Assembler.ofDocument doc options .none none = .ok a) :
    Reached doc options (.ofResolver (.ofDocument doc options.affixes)) := by
  obtain ⟨template, -, hplain⟩ := bind_ok ha
  cases hplain
  exact ⟨_, [], _, ha, rfl, .inl ⟨List.nil_prefix, rfl⟩⟩

/-- A successful run comes to the registry whose components it gives out. -/
theorem reached_of_run {doc : Document} {options : RouteOptions} {result : RunResult}
    (h : run doc options = .ok result) :
    ∃ registry, Reached doc options registry ∧ result.routes.components = registry.created := by
  obtain ⟨template, progress, ha, hprogress, rfl⟩ := run_ok h
  exact ⟨progress.state.registry,
    ⟨_, _, progress, ha, hprogress, .inl ⟨List.prefix_refl _, rfl⟩⟩, rfl⟩

/-- Every registry of a run comes from the document's own. -/
theorem Reached.hoists {doc : Document} {options : RouteOptions} {registry : Registry}
    (h : Reached doc options registry) :
    Registry.Hoists (.ofDocument doc options.affixes) options.extract
      (.ofResolver (.ofDocument doc options.affixes)) registry := by
  obtain ⟨a, done, progress, ha, hprogress, hregistry⟩ := h
  obtain ⟨template, -, hplain⟩ := bind_ok ha
  cases hplain
  have hdone := Progress.hoists_advanceAll hprogress
  rcases hregistry with ⟨-, rfl⟩ | ⟨entry, base, -, -, hstage⟩
  · exact hdone
  · exact hdone.trans (Assembler.hoists_of_mem_registriesOf _ _ hstage)

end ApiRoutes
