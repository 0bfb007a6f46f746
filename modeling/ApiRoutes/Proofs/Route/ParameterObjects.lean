import ApiRoutes.Proofs.Route.Classification

/-!
# Parameters as one object

The parameters of a location are handed over in one object. Its properties come in the order in which
their keys first appear, and of several parameters with one key the last counts, for the schema and
for whether the property is required (`IsObjectOf`). Whether the object may be left out is read off
its shape and agrees with its type: it may if no field is required (`isObjectOf_objectSchema`).

The parameters of a bucket differ in name, but the key of a name with points is its camel casing, which
can be the key of another parameter. Exactly then the object has fewer properties than the bucket has
parameters (`length_properties_eq_iff`).
-/

namespace ApiRoutes

open RouteParam (propertyName propertySchema)

/-! ## Keys and schemas -/

theorem propertyName_of_point {p : RouteParam} (h : '.' ∈ p.name.toList) :
    p.propertyName = camelName p.name :=
  if_pos (by simpa using h)

theorem propertyName_of_no_point {p : RouteParam} (h : '.' ∉ p.name.toList) :
    p.propertyName = p.name :=
  if_neg (by simpa using h)

theorem objectProperties_eq (params : List RouteParam) :
    objectProperties params
      = Entries.ofList (params.map fun p => (p.propertyName, p.propertySchema)) := by
  rw [objectProperties, Entries.ofList, List.foldl_map]

theorem keys_objectProperties (params : List RouteParam) :
    (objectProperties params).keys = Text.distinct (params.map (·.propertyName)) := by
  rw [objectProperties_eq, Entries.keys_ofList, List.map_map]
  rfl

theorem nodup_keys_objectProperties (params : List RouteParam) :
    (objectProperties params).keys.Nodup :=
  keys_objectProperties params ▸ Text.nodup_distinct _

/-- The schema that a parameter has as a property is its own, where an inline schema without a
description gets that of the parameter. -/
inductive IsPropertyOf (p : RouteParam) : OrRef Schema → Prop
  | ref {path : String} (h : p.schema = .ref path) : IsPropertyOf p (.ref path)
  | described {schema : Schema} (h : p.schema = .inline schema) (hown : schema.description ≠ none) :
      IsPropertyOf p (.inline schema)
  | undescribed {schema : Schema} (h : p.schema = .inline schema)
      (hnone : schema.description = none) :
      IsPropertyOf p (.inline { schema with description := p.description })

theorem propertySchema_eq {p : RouteParam} {property : OrRef Schema} (h : IsPropertyOf p property) :
    p.propertySchema = property := by
  cases h with
  | ref h => rw [propertySchema, h]
  | @described schema h hown =>
      obtain ⟨text, htext⟩ := Option.ne_none_iff_exists'.mp hown
      cases schema
      simp_all [propertySchema]
  | undescribed h hnone => simp [propertySchema, h, hnone]

theorem isPropertyOf_iff {p : RouteParam} {property : OrRef Schema} :
    IsPropertyOf p property ↔ p.propertySchema = property := by
  refine ⟨propertySchema_eq, ?_⟩
  rintro rfl
  have hproperty : ∃ property, IsPropertyOf p property := by
    rcases h : p.schema with path | schema
    · exact ⟨_, .ref h⟩
    · by_cases hnone : schema.description = none
      · exact ⟨_, .undescribed h hnone⟩
      · exact ⟨_, .described h hnone⟩
  obtain ⟨property, h⟩ := hproperty
  exact propertySchema_eq h ▸ h

theorem find?_objectProperties_iff {params : List RouteParam} {key : String}
    {property : OrRef Schema} :
    (objectProperties params).find? key = some property ↔
      ∃ p, IsLast (·.propertyName) params p ∧ p.propertyName = key ∧ IsPropertyOf p property := by
  rw [Entries.find?_eq_some_iff (nodup_keys_objectProperties params), objectProperties_eq,
    Entries.mem_ofList_iff, isLast_map]
  simp only [Prod.mk.injEq, isPropertyOf_iff]

/-- No parameter is lost if and only if no two have the same key. -/
theorem length_objectSchema_iff (params : List RouteParam) :
    (objectSchema params).properties.length = params.length ↔
      (params.map (·.propertyName)).Nodup := by
  rw [← Text.length_distinct_eq_iff, ← keys_objectProperties, List.length_map, Entries.keys,
    List.length_map]
  rfl

/-! ## Required properties -/

theorem objectRequired_concat (params : List RouteParam) (p : RouteParam) :
    objectRequired (params ++ [p]) = (objectRequired params).filter (· ≠ p.propertyName)
      ++ if p.required then [p.propertyName] else [] := by
  rw [objectRequired, List.foldl_append]
  show (if p.required then _ else _) = _
  split
  · rfl
  · exact (List.append_nil _).symm

theorem nodup_objectRequired (params : List RouteParam) : (objectRequired params).Nodup := by
  induction params using List.reverseRecOn with
  | nil => exact List.nodup_nil
  | append_singleton params p ih =>
      rw [objectRequired_concat]
      refine List.nodup_append.mpr ⟨ih.filter _, by split <;> simp, ?_⟩
      rintro key hkey _ hnew rfl
      split at hnew
      · simp [List.mem_singleton.mp hnew] at hkey
      · exact nomatch hnew

/-- A key is required if the last parameter with the key is. -/
theorem mem_objectRequired_iff {params : List RouteParam} {key : String} :
    key ∈ objectRequired params ↔
      ∃ p, IsLast (·.propertyName) params p ∧ p.propertyName = key ∧ p.required = true := by
  induction params using List.reverseRecOn with
  | nil => exact iff_of_false List.not_mem_nil fun ⟨_, h, _⟩ => not_isLast_nil h
  | append_singleton params p ih =>
      simp only [objectRequired_concat, isLast_concat, List.mem_append, List.mem_filter, ih,
        decide_eq_true_eq]
      constructor
      · rintro (⟨⟨q, hlast, rfl, hrequired⟩, hne⟩ | hnew)
        · exact ⟨q, .inr ⟨hlast, Ne.symm hne⟩, rfl, hrequired⟩
        · split at hnew
          · exact ⟨p, .inl rfl, (List.mem_singleton.mp hnew).symm, ‹_›⟩
          · exact nomatch hnew
      · rintro ⟨q, rfl | ⟨hlast, hne⟩, rfl, hrequired⟩
        · exact .inr (by simp [hrequired])
        · exact .inl ⟨⟨q, hlast, rfl, hrequired⟩, Ne.symm hne⟩

/-! ## The object -/

/-- An object schema made from parameters: a property for each key, in the order in which the keys
first appear, with the schema of the last parameter of the key, and required if that one is. -/
structure IsObjectOf (params : List RouteParam) (schema : Schema) : Prop where
  keys_eq : Entries.keys schema.properties = Text.distinct (params.map (·.propertyName))
  find?_iff : ∀ key property, Entries.find? schema.properties key = some property ↔
    ∃ p, IsLast (·.propertyName) params p ∧ p.propertyName = key ∧ IsPropertyOf p property
  nodup_required : schema.required.Nodup
  mem_required_iff : ∀ key, key ∈ schema.required ↔
    ∃ p, IsLast (·.propertyName) params p ∧ p.propertyName = key ∧ p.required = true

theorem isObjectOf (params : List RouteParam) : IsObjectOf params (objectSchema params) where
  keys_eq := keys_objectProperties params
  find?_iff := fun _ _ => find?_objectProperties_iff
  nodup_required := nodup_objectRequired params
  mem_required_iff := fun _ => mem_objectRequired_iff

/-- The type of such an object has its properties as fields. -/
theorem tree_objectSchema (r : Resolver) (params : List RouteParam) :
    r.tree (.inline (objectSchema params))
      = .object (TypeTree.ofProperties r.typeName (objectRequired params) (objectProperties params)) := by
  simp only [Resolver.tree, objectSchema, Schema.object, TypeTree.ofSchemaOrRef, TypeTree.ofSchema,
    TypeTree.ofType, List.isEmpty_nil, Bool.not_true, Bool.false_eq_true, if_false, reduceCtorEq]
  split
  · rename_i hempty
    rw [List.isEmpty_iff.mp hempty]
    rfl
  · rfl

theorem forall_mem_ofProperties_iff {typeName : String → String} {required : List String}
    {properties : List (String × OrRef Schema)} :
    (∀ field ∈ TypeTree.ofProperties typeName required properties, field.2.2 = false) ↔
      ∀ key ∈ Entries.keys properties, key ∉ required := by
  induction properties with
  | nil => simp [TypeTree.ofProperties, Entries.keys]
  | cons property rest ih =>
      obtain ⟨name, schema⟩ := property
      rw [TypeTree.ofProperties, List.forall_mem_cons, ih]
      simp [Entries.keys]

/-- The shape of such an object tells the same of its fields. -/
theorem allFieldsOptional_iff (r : Resolver) (params : List RouteParam) :
    (r.shape (.inline (objectSchema params))).allFieldsOptional = true ↔
      ∀ key ∈ (objectProperties params).keys, key ∉ objectRequired params := by
  simp [Resolver.shape, objectSchema, Schema.object, Resolver.gatherSchema, Resolver.gatherMembers,
    Resolver.Gathered.append, Entries.keys]

/-- **Parameter objects.** The object of some parameters is made by the rule of `IsObjectOf`, its type
is an object type, and its shape says that all fields are optional if and only if no field of this
type is required. -/
theorem isObjectOf_objectSchema (r : Resolver) (params : List RouteParam) :
    IsObjectOf params (objectSchema params)
      ∧ ∃ fields, r.tree (.inline (objectSchema params)) = .object fields
        ∧ ((r.shape (.inline (objectSchema params))).allFieldsOptional = true
          ↔ ∀ field ∈ fields, field.2.2 = false) := by
  refine ⟨isObjectOf params, _, tree_objectSchema r params, ?_⟩
  rw [allFieldsOptional_iff, forall_mem_ofProperties_iff]

/-- In the object of query and path parameters those of the path win. -/
theorem requestSchema?_of_isLast {params : RouteParams} {schema : Schema} {p : RouteParam}
    (h : params.requestSchema? = some schema) (hp : IsLast (·.propertyName) params.path p) :
    Entries.find? schema.properties p.propertyName = some p.propertySchema
      ∧ (p.propertyName ∈ schema.required ↔ p.required = true) := by
  have hschema : schema = objectSchema (params.query ++ params.path) := by
    unfold RouteParams.requestSchema? at h
    split at h
    · cases h
    · exact (Option.some.inj h).symm
  have hlast := hp.append_left params.query
  have hobject := isObjectOf (params.query ++ params.path)
  rw [hschema]
  refine ⟨(hobject.find?_iff _ _).mpr ⟨p, hlast, rfl, isPropertyOf_iff.mpr rfl⟩, ?_⟩
  rw [hobject.mem_required_iff]
  refine ⟨fun ⟨q, hq, hkey, hrequired⟩ => ?_, fun hrequired => ⟨p, hlast, rfl, hrequired⟩⟩
  rwa [← hq.unique hlast hkey]

/-! ## Objects of a bucket -/

namespace RouteParams

/-- The names of path parameters have no points: they are in camel casing. -/
theorem point_not_mem_name {r : Resolver} {declared : List (OrRef Parameter)} {path : String}
    {p : RouteParam} (h : p ∈ (classify r declared (.ofPath path)).bucket .path) :
    '.' ∉ p.name.toList := by
  have hcamel : ∃ raw, p.name = camelName raw := by
    rw [classify, bucket_foldl_imply] at h
    rcases List.mem_append.mp h with hdeclared | himplied
    · obtain ⟨raw, -, hname⟩ := mem_namesAt_ofDeclared.mp (List.mem_map_of_mem hdeclared)
      exact ⟨raw, hname.symm⟩
    · obtain ⟨i, hi, rfl⟩ := List.mem_map.mp himplied
      have hmem := (List.mem_filter.mp (isFirst_of_mem_firstNew hi).mem).1
      rcases List.mem_append.mp hmem with hpath | hquery
      · exact ⟨i.rawName, PathTemplate.name_of_mem_pathParams hpath⟩
      · exact ⟨i.rawName, (PathTemplate.of_mem_queryParameters i hquery).2⟩
  obtain ⟨raw, hname⟩ := hcamel
  intro hpoint
  exact absurd (isWordChar_camelName raw _ (hname ▸ hpoint)) (by decide)

/-- Parameters that differ in name have different keys, unless the camel casing of a name with points
is the key of another one. -/
theorem nodup_map_propertyName_iff {bucket : List RouteParam}
    (h : (bucket.map (·.name)).Nodup) :
    (bucket.map (·.propertyName)).Nodup ↔
      ∀ p ∈ bucket, ∀ q ∈ bucket, p.name ≠ q.name → '.' ∈ p.name.toList →
        q.propertyName ≠ camelName p.name := by
  rw [List.nodup_map_iff_inj_on h.of_map]
  constructor
  · intro hinj p hp q hq hne hdot heq
    exact hne (congrArg _ (hinj p hp q hq ((propertyName_of_point hdot).trans heq.symm)))
  · intro hapart p hp q hq heq
    by_contra hpq
    have hne : p.name ≠ q.name := fun hname => hpq (List.inj_on_of_nodup_map h hp hq hname)
    by_cases hdot : '.' ∈ p.name.toList
    · exact hapart p hp q hq hne hdot (heq.symm.trans (propertyName_of_point hdot))
    · by_cases hdot' : '.' ∈ q.name.toList
      · exact hapart q hq p hp (Ne.symm hne) hdot' (heq.trans (propertyName_of_point hdot'))
      · rw [propertyName_of_no_point hdot, propertyName_of_no_point hdot'] at heq
        exact hne heq

theorem objectSchema?_of_ne_nil {params : RouteParams} {location : Location}
    (h : params.bucket location ≠ []) :
    params.objectSchema? location = some (objectSchema (params.bucket location)) := by
  unfold objectSchema?
  split
  · rename_i hempty
    exact absurd hempty h
  · rfl

/-- **Lost parameters.** The object of a bucket has as many properties as the bucket has parameters if
and only if the camel casing of no name with points is the key of another parameter. For path
parameters it always has. -/
theorem length_properties_eq_iff (r : Resolver) (declared : List (OrRef Parameter)) (path : String)
    (location : Location) (h : (classify r declared (.ofPath path)).bucket location ≠ []) :
    let params := classify r declared (.ofPath path)
    let bucket := params.bucket location
    ∃ schema, params.objectSchema? location = some schema
      ∧ (schema.properties.length = bucket.length ↔
        ∀ p ∈ bucket, ∀ q ∈ bucket, p.name ≠ q.name → '.' ∈ p.name.toList →
          q.propertyName ≠ camelName p.name)
      ∧ (location = .path → schema.properties.length = bucket.length) := by
  intro params bucket
  have hapart := nodup_map_propertyName_iff
    (nodup_namesAt_classify r declared (.ofPath path) location)
  refine ⟨_, objectSchema?_of_ne_nil h, (length_objectSchema_iff bucket).trans hapart, ?_⟩
  rintro rfl
  exact (length_objectSchema_iff bucket).mpr
    (hapart.mpr fun p hp _ _ _ hdot => absurd hdot (point_not_mem_name hp))

/-- Of `filter.name` and `filterName` one is lost. -/
theorem property_lost_filterName :
    let declared := [.inline { name := some "filter.name", location := some .query },
      .inline { name := some "filterName", location := some .query }]
    let params := classify ⟨{}, {}⟩ declared (.ofPath "/items")
    (params.bucket .query).map (·.name) = ["filter.name", "filterName"]
      ∧ ∃ schema, params.objectSchema? .query = some schema
        ∧ schema.properties.length ≠ (params.bucket .query).length := by
  intro declared params
  have hkeys : (params.bucket .query).map (fun p => (p.name, p.propertyName))
      = [("filter.name", "filterName"), ("filterName", "filterName")] := by decide +kernel
  have hnames : (params.bucket .query).map (·.name) = ["filter.name", "filterName"] := by
    decide +kernel
  have hne : params.bucket .query ≠ [] := by
    intro hempty
    rw [hempty] at hnames
    exact nomatch hnames
  obtain ⟨schema, hschema, hlength, -⟩ :=
    length_properties_eq_iff ⟨{}, {}⟩ declared "/items" .query hne
  refine ⟨hnames, schema, hschema, fun hsame => ?_⟩
  obtain ⟨p, hp, hpkey⟩ := List.mem_map.mp (hkeys ▸ List.mem_cons_self)
  obtain ⟨q, hq, hqkey⟩ := List.mem_map.mp (hkeys ▸ List.mem_cons_of_mem _ List.mem_cons_self)
  obtain ⟨hpname, -⟩ := Prod.mk.inj hpkey
  obtain ⟨hqname, hqkey⟩ := Prod.mk.inj hqkey
  refine hlength.mp hsame p hp q hq ?_ ?_ ?_
  · rw [hpname, hqname]
    decide
  · rw [hpname]
    decide
  · rw [hqkey, hpname]
    decide +kernel

end RouteParams

end ApiRoutes
