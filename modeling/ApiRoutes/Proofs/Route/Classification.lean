import ApiRoutes.Proofs.Route.ImpliedParameters

/-!
# What the buckets of a route hold

The declarations of a list are read one after the other, each into the bucket of its location, and so
is what the path implies. What this comes to is told without the reading (`Classified`): a bucket holds,
for each name that is declared at its location, in the order of first declarations, the parameter of
the last declaration; then, for each further name that the path implies there, in the order of the
path, the parameter of the first token.

- **Declared side.** A bucket, seen as a table by name (`byName`), is the table that results from
  writing the declarations of its location (`byName_bucket_ofDeclared`).
- **Implied side.** What the path adds to the end of a bucket (`bucket_foldl_imply`) are the first
  parameters of its new names (`map_key_firstNew`, `isFirst_of_mem_firstNew`).
-/

namespace ApiRoutes

/-! ## Declarations -/

/-- The location and name under which an entry declares a parameter. An entry that leads to no
parameter, or to one without location or name, declares nothing. -/
def declaredKey? (r : Resolver) (entry : OrRef Parameter) : Option (Location × String) :=
  (declaredParameter? r entry).bind fun param =>
    match param.location, param.name with
    | some location, some raw =>
      if raw = "" then none else some (location, RouteParam.bucketName location raw)
    | _, _ => none

/-- The names that entries declare at a location, in order and with repeats. -/
def declaredNames (r : Resolver) (declared : List (OrRef Parameter)) (location : Location) :
    List String :=
  ((declared.filterMap (declaredKey? r)).filter (·.1 = location)).map Prod.snd

/-- The text of a location that is not known. -/
def Location.unknown? : Location → Option String
  | .other text => some text
  | _ => none

/-- What a path implies at a location, in order and with repeats. -/
def PathTemplate.impliedAt (template : PathTemplate) (location : Location) : List PathParameter :=
  (template.pathParams ++ template.queryParams).filter
    (RouteParam.impliedLocation ·.place = location)

/-- A bucket consists of merged declarations, the last for each name that is declared at its location,
and of implied parameters, the first for each name that is not. -/
structure Classified (r : Resolver) (declared : List (OrRef Parameter)) (template : PathTemplate)
    (location : Location) (bucket merged : List RouteParam) (implied : List PathParameter) :
    Prop where
  bucket_eq : bucket = merged ++ implied.map RouteParam.ofImplied
  names_merged : merged.map (·.name) = Text.distinct (declaredNames r declared location)
  merged_last : ∀ param ∈ merged, ∃ entry, IsLast (declaredKey? r) declared entry
    ∧ declaredKey? r entry = some (location, param.name)
    ∧ RouteParam.ofEntry? r entry = some param
  names_implied : implied.map (·.name) =
    (Text.distinct ((template.impliedAt location).map (·.name))).filter
      (· ∉ declaredNames r declared location)
  implied_first : ∀ i ∈ implied, IsFirst (·.name) (template.impliedAt location) i
  nodup_names : (bucket.map (·.name)).Nodup

namespace RouteParam

/-- Location and name of a declared parameter are those of its entry. -/
theorem map_key_ofEntry? (r : Resolver) (entry : OrRef Parameter) :
    (RouteParam.ofEntry? r entry).map (fun param => (param.location, param.name)) =
      declaredKey? r entry := by
  rw [ofEntry?_eq, declaredKey?]
  rcases declaredParameter? r entry with _ | param
  · rfl
  · rw [Option.bind_some, Option.bind_some, ofDeclared?]
    rcases param.location with _ | location
    · rfl
    · rcases param.name with _ | raw
      · rfl
      · dsimp only
        split <;> rfl

/-- Parameters by name. -/
def byName (params : List RouteParam) : Entries RouteParam := params.map fun p => (p.name, p)

theorem map_fst_byName (params : List RouteParam) :
    (byName params).map Prod.fst = params.map (·.name) := by
  rw [byName, List.map_map]
  rfl

theorem mem_byName {params : List RouteParam} {param : RouteParam} :
    (param.name, param) ∈ byName params ↔ param ∈ params := by
  simp [byName]

theorem isLast_byName {params : List RouteParam} {param : RouteParam} :
    IsLast Prod.fst (byName params) (param.name, param) ↔ IsLast (·.name) params param := by
  simp [byName, isLast_map]

/-- Replacing a parameter in its bucket is writing to a table. -/
theorem byName_replaceOrAppend (param : RouteParam) (bucket : List RouteParam) :
    byName (param.replaceOrAppend bucket) = (byName bucket).insert param.name param := by
  induction bucket with
  | nil => rfl
  | cons p rest ih =>
      unfold replaceOrAppend
      split
      · rename_i hname
        simp [byName, Entries.insert, hname]
      · rename_i hname
        rw [byName, List.map_cons, ← byName, ih]
        simp [byName, Entries.insert, hname]

end RouteParam

namespace RouteParams

open RouteParam (byName)

variable {r : Resolver} {declared : List (OrRef Parameter)} {location : Location}

theorem byName_bucket_foldl_declare (location : Location) (list : List RouteParam)
    (params : RouteParams) :
    byName ((list.foldl declare params).bucket location)
      = (byName (params.bucket location)).extend (byName (list.filter (·.location = location))) := by
  induction list generalizing params with
  | nil => rfl
  | cons p list ih =>
      rw [List.foldl_cons, ih]
      by_cases hlocation : p.location = location
      · subst hlocation
        rw [declare, bucket_setBucket_self, RouteParam.byName_replaceOrAppend,
          List.filter_cons_of_pos (by simp)]
        rfl
      · rw [declare, bucket_setBucket_of_ne (Ne.symm hlocation),
          List.filter_cons_of_neg (by simpa using hlocation)]

/-- The declared parameters of a bucket by name: its declarations, written one after the other. -/
theorem byName_bucket_ofDeclared (r : Resolver) (declared : List (OrRef Parameter))
    (location : Location) :
    byName ((ofDeclared r declared).bucket location) = Entries.ofList (byName
      ((declared.filterMap (RouteParam.ofEntry? r)).filter (·.location = location))) := by
  rw [ofDeclared, byName_bucket_foldl_declare, bucket_empty]
  rfl

theorem map_name_declared (r : Resolver) (declared : List (OrRef Parameter)) (location : Location) :
    ((declared.filterMap (RouteParam.ofEntry? r)).filter (·.location = location)).map (·.name)
      = declaredNames r declared location := by
  have hkeys : declared.filterMap (declaredKey? r)
      = (declared.filterMap (RouteParam.ofEntry? r)).map fun p => (p.location, p.name) := by
    rw [List.map_filterMap]
    exact List.filterMap_congr fun entry _ => (RouteParam.map_key_ofEntry? r entry).symm
  rw [declaredNames, hkeys, List.filter_map, List.map_map]
  rfl

/-- The names of declared parameters come in the order of their first declarations. -/
theorem map_name_bucket_ofDeclared (r : Resolver) (declared : List (OrRef Parameter))
    (location : Location) :
    ((ofDeclared r declared).bucket location).map (·.name)
      = Text.distinct (declaredNames r declared location) := by
  rw [← map_name_declared, ← RouteParam.map_fst_byName, ← RouteParam.map_fst_byName,
    ← Entries.keys_ofList, ← byName_bucket_ofDeclared]
  rfl

/-- Each declared parameter is that of the last declaration of its name. -/
theorem exists_isLast_of_mem_bucket {param : RouteParam}
    (h : param ∈ (ofDeclared r declared).bucket location) :
    ∃ entry, IsLast (declaredKey? r) declared entry
      ∧ declaredKey? r entry = some (location, param.name)
      ∧ RouteParam.ofEntry? r entry = some param := by
  rw [← RouteParam.mem_byName, byName_bucket_ofDeclared, Entries.mem_ofList_iff,
    RouteParam.isLast_byName, List.filter_filterMap, isLast_filterMap] at h
  obtain ⟨entry, hlast, hentry⟩ := h
  obtain ⟨hof, hlocation⟩ := Option.filter_eq_some_iff.mp hentry
  have hkey : declaredKey? r entry = some (location, param.name) := by
    rw [← RouteParam.map_key_ofEntry?, hof, ← of_decide_eq_true hlocation]
    rfl
  refine ⟨entry, hlast.of_key fun other hother => ?_, hkey, hof⟩
  -- an entry with the same location and name is one of the bucket, and under that name
  rw [hkey, ← RouteParam.map_key_ofEntry?] at hother
  obtain ⟨p, hp, heq⟩ := Option.map_eq_some_iff.mp hother
  obtain ⟨hsame, hname⟩ := Prod.mk.inj heq
  simp [hentry, hp, hsame, hname]

/-! ## Unknown locations -/

theorem keys_other_foldl_declare (list : List RouteParam) (params : RouteParams) :
    (list.foldl declare params).other.keys
      = (list.filterMap (·.location.unknown?)).foldl Text.addNew params.other.keys := by
  induction list generalizing params with
  | nil => rfl
  | cons p list ih =>
      rw [List.foldl_cons, ih, List.filterMap_cons, declare]
      cases p.location with
      | other text =>
          show List.foldl _ (Entries.keys (params.other.insert text _)) _ = _
          rw [Entries.keys_insert]
          rfl
      | _ => rfl

theorem other_foldl_imply (found : List PathParameter) (params : RouteParams) :
    (found.foldl imply params).other = params.other := by
  refine List.foldlRecOn (motive := fun later : RouteParams => later.other = params.other) found _
    rfl fun later h i _ => ?_
  rw [imply_eq, ← h]
  dsimp only
  split
  · rfl
  · cases i.place <;> rfl

/-- The unknown locations are those that are declared, in the order in which they appear. -/
theorem keys_other_classify (r : Resolver) (declared : List (OrRef Parameter))
    (template : PathTemplate) :
    (classify r declared template).other.keys
      = Text.distinct ((declared.filterMap (declaredKey? r)).filterMap (·.1.unknown?)) := by
  rw [classify, other_foldl_imply, keys_other_foldl_declare, List.filterMap_filterMap,
    List.filterMap_filterMap]
  refine congrArg Text.distinct (List.filterMap_congr fun entry _ => ?_)
  rw [← RouteParam.map_key_ofEntry?, Option.bind_map]
  rfl

/-! ## Buckets -/

/-- **Classification.** Every bucket of a route holds its last declarations and its first implied
parameters, as `Classified` says, and there are no buckets for unknown locations but those that are
declared. -/
theorem classified_classify (r : Resolver) (declared : List (OrRef Parameter))
    (template : PathTemplate) :
    (∀ location, ∃ merged implied, Classified r declared template location
        ((classify r declared template).bucket location) merged implied)
      ∧ (classify r declared template).other.keys
        = Text.distinct ((declared.filterMap (declaredKey? r)).filterMap (·.1.unknown?)) := by
  refine ⟨fun location => ?_, keys_other_classify r declared template⟩
  have hnames : ∀ name, name ∈ (ofDeclared r declared).namesAt location
      ↔ name ∈ declaredNames r declared location := by
    intro name
    rw [namesAt, map_name_bucket_ofDeclared, Text.mem_distinct]
  refine ⟨(ofDeclared r declared).bucket location, firstNew (·.name)
    ((ofDeclared r declared).namesAt location) (template.impliedAt location), ?_⟩
  exact {
    bucket_eq := bucket_foldl_imply location _ _
    names_merged := map_name_bucket_ofDeclared r declared location
    merged_last := fun _ hparam => exists_isLast_of_mem_bucket hparam
    names_implied := by
      rw [map_key_firstNew]
      simp only [hnames]
    implied_first := fun _ hi => isFirst_of_mem_firstNew hi
    nodup_names := nodup_namesAt_classify r declared template location }

end RouteParams

end ApiRoutes
