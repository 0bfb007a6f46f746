import ApiRoutes.Proofs.Data.Occurrences
import ApiRoutes.Proofs.Path.Pieces
import ApiRoutes.Proofs.Route.Arguments

/-!
# Declared and implied parameters

The parameters of a route are the declared ones, and those its path implies where nothing of the name
is declared. A path parameter is declared and implied in camel casing, so that a declaration always
wins. A query parameter is implied in camel casing and declared as it is spelled: a declaration wins
exactly if its name in camel casing is declared too (`ofImplied_mem_classify_iff`).

- **Declared side.** The names of a bucket are those its entries declare (`mem_namesAt_declared`),
  and nothing in it is implied.
- **Implied side.** The path adds to the end of a bucket the parameters of its new names, and changes
  nothing that is there (`bucket_foldl_imply`). So a name that is there keeps every parameter of that
  name out (`ofImplied_notMem_foldl_imply`); one that is not lets the first of them in
  (`ofImplied_mem_foldl_imply`).
-/

namespace ApiRoutes

/-! ## Names that a path implies -/

/-- The name of an implied parameter as the path spells it, without the delimiters of a token. -/
def PathParameter.rawName (implied : PathParameter) : String :=
  match implied.place with
  | .path =>
    String.ofList (implied.token.toList.filter fun c => c ≠ '\x7b' ∧ c ≠ '\x7d' ∧ c ≠ ':')
  | .query => implied.token

namespace PathTemplate

theorem IsToken.filter_eq {name written : List Char} (h : IsToken name written)
    (hname : ∀ c ∈ name, isNameRest c = true) :
    written.filter (fun c => c ≠ '\x7b' ∧ c ≠ '\x7d' ∧ c ≠ ':') = name := by
  have hplain : ∀ c ∈ name, ¬ c = '\x7b' ∧ ¬ c = '\x7d' ∧ ¬ c = ':' := by
    refine fun c hc => ⟨?_, ?_, ?_⟩ <;>
      · rintro rfl
        exact absurd (hname _ hc) (by decide)
  cases h <;> simpa using hplain

variable {path : String} {implied : PathParameter}

theorem name_of_mem_pathParams (h : implied ∈ (ofPath path).pathParams) :
    implied.name = camelName implied.rawName := by
  obtain ⟨piece, hpiece, himplied⟩ := List.mem_filterMap.mp h
  cases piece with
  | literal c => cases himplied
  | found written name =>
      obtain ⟨htoken, hname⟩ := isToken_of_mem_tokenPieces hpiece
      obtain rfl := Option.some.inj himplied
      simp only [PathParameter.rawName, String.toList_ofList, htoken.filter_eq hname]

theorem of_mem_queryParameters {names : List String} :
    ∀ implied ∈ queryParameters names,
      implied.place = .query ∧ implied.name = camelName implied.rawName := by
  refine List.foldlRecOn (motive := fun found : List PathParameter => ∀ implied ∈ found,
    implied.place = .query ∧ implied.name = camelName implied.rawName) names _
    (List.forall_mem_nil _) fun found ih raw _ => ?_
  split
  · exact ih
  · intro implied h
    rcases List.mem_append.mp h with hfound | hnew
    · exact ih implied hfound
    · obtain rfl := List.mem_singleton.mp hnew
      simp only [PathParameter.rawName, and_self]

/-- The query parameters of a path differ in name. -/
theorem nodup_name_queryParameters (names : List String) :
    ((queryParameters names).map (·.name)).Nodup := by
  have hempty : (([] : List PathParameter).map (·.name)).Nodup := List.nodup_nil
  refine List.foldlRecOn (motive := fun found : List PathParameter => (found.map (·.name)).Nodup)
    names _ hempty fun found ih raw _ => ?_
  split
  · exact ih
  · rename_i hnew
    rw [List.map_append]
    refine List.nodup_append.mpr ⟨ih, List.nodup_singleton _, ?_⟩
    rintro name hname _ hraw rfl
    obtain rfl := List.mem_singleton.mp hraw
    obtain ⟨earlier, hearlier, heq⟩ := List.mem_map.mp hname
    simp only at heq
    exact hnew (List.any_eq_true.mpr ⟨earlier, hearlier, decide_eq_true heq⟩)

end PathTemplate

/-! ## Declared parameters -/

/-- The parameter that an entry stands for. -/
def declaredParameter? (r : Resolver) : OrRef Parameter → Option Parameter
  | .inline param => some param
  | .ref path =>
    match r.resolve? path with
    | some { target := .parameter param, .. } => some param
    | _ => none

/-- Some entry declares a parameter of this location and name. -/
def Declares (r : Resolver) (declared : List (OrRef Parameter)) (location : Location)
    (raw : String) : Prop :=
  raw ≠ "" ∧ ∃ entry ∈ declared, ∃ param, declaredParameter? r entry = some param ∧
    param.location = some location ∧ param.name = some raw

namespace RouteParam

def declaredOrigin : OrRef Parameter → ParamOrigin
  | .inline _ => .explicit
  | .ref path => .referenced path

theorem declaredOrigin_ne (entry : OrRef Parameter) (token : String) :
    declaredOrigin entry ≠ .synthesized token := by
  cases entry <;> nofun

theorem ofEntry?_eq (r : Resolver) (entry : OrRef Parameter) :
    ofEntry? r entry = (declaredParameter? r entry).bind (ofDeclared? (declaredOrigin entry)) := by
  cases entry with
  | inline param => rfl
  | ref path =>
      simp only [declaredParameter?, ofEntry?]
      rcases r.resolve? path with _ | ⟨name, typeName, category, target⟩
      · rfl
      · cases target <;> rfl

theorem impliedLocation_injective : Function.Injective impliedLocation := by
  intro a b h
  cases a <;> cases b <;> first | rfl | cases h

variable {origin : ParamOrigin} {declared : Parameter} {param : RouteParam}

theorem of_ofDeclared? (h : ofDeclared? origin declared = some param) :
    declared.location = some param.location ∧ declared.name = some param.declaredName ∧
      param.declaredName ≠ "" ∧ param.name = bucketName param.location param.declaredName ∧
      param.origin = origin := by
  unfold ofDeclared? at h
  split at h
  · rename_i location raw hlocation hname
    split at h
    · cases h
    · rename_i hraw
      cases h
      exact ⟨hlocation, hname, hraw, rfl, rfl⟩
  · cases h

theorem exists_ofDeclared? {location : Location} {raw : String}
    (hlocation : declared.location = some location) (hname : declared.name = some raw)
    (hraw : raw ≠ "") (origin : ParamOrigin) :
    ∃ param, ofDeclared? origin declared = some param ∧ param.location = location ∧
      param.name = bucketName location raw := by
  simp [ofDeclared?, hlocation, hname, hraw]

theorem mem_replaceOrAppend {p : RouteParam} : ∀ {bucket : List RouteParam},
    p ∈ param.replaceOrAppend bucket → p = param ∨ p ∈ bucket
  | [], h => .inl (List.mem_singleton.mp h)
  | first :: rest, h => by
      unfold replaceOrAppend at h
      split at h
      · exact (List.mem_cons.mp h).imp_right (List.mem_cons_of_mem _)
      · rcases List.mem_cons.mp h with rfl | hrest
        · exact .inr List.mem_cons_self
        · exact (mem_replaceOrAppend hrest).imp_right (List.mem_cons_of_mem _)

end RouteParam

namespace RouteParams

/-- The parameters that the entries of a list declare. -/
def ofDeclared (r : Resolver) (declared : List (OrRef Parameter)) : RouteParams :=
  (declared.filterMap (RouteParam.ofEntry? r)).foldl declare {}

theorem mem_namesAt_foldl_declare {location : Location} {name : String} :
    ∀ {list : List RouteParam} {params : RouteParams},
      name ∈ (list.foldl declare params).namesAt location ↔
        name ∈ params.namesAt location ∨ ∃ p ∈ list, p.location = location ∧ p.name = name
  | [], params => by simp
  | p :: list, params => by
      rw [List.foldl_cons, mem_namesAt_foldl_declare, namesAt_declare]
      by_cases hlocation : location = p.location
      · subst hlocation
        rw [if_pos rfl, Text.mem_addNew]
        simp [or_assoc, eq_comm]
      · simp [hlocation, Ne.symm hlocation]

/-- The names of a bucket are those that its entries declare. -/
theorem mem_namesAt_ofDeclared {r : Resolver} {declared : List (OrRef Parameter)}
    {location : Location} {name : String} :
    name ∈ (ofDeclared r declared).namesAt location ↔
      ∃ raw, Declares r declared location raw ∧ RouteParam.bucketName location raw = name := by
  unfold ofDeclared
  rw [mem_namesAt_foldl_declare, namesAt_empty]
  constructor
  · rintro (hnil | ⟨param, hparam, rfl, rfl⟩)
    · cases hnil
    · obtain ⟨entry, hentry, hof⟩ := List.mem_filterMap.mp hparam
      rw [RouteParam.ofEntry?_eq] at hof
      obtain ⟨p, hp, hof⟩ := Option.bind_eq_some_iff.mp hof
      obtain ⟨hlocation, hname, hraw, hbucket, -⟩ := RouteParam.of_ofDeclared? hof
      exact ⟨param.declaredName, ⟨hraw, entry, hentry, p, hp, hlocation, hname⟩, hbucket.symm⟩
  · rintro ⟨raw, ⟨hraw, entry, hentry, p, hp, hlocation, hname⟩, rfl⟩
    obtain ⟨param, hof, hparam⟩ := RouteParam.exists_ofDeclared? hlocation hname hraw
      (RouteParam.declaredOrigin entry)
    refine .inr ⟨param, List.mem_filterMap.mpr ⟨entry, hentry, ?_⟩, hparam⟩
    rw [RouteParam.ofEntry?_eq, hp]
    exact hof

theorem bucket_empty (location : Location) : ({} : RouteParams).bucket location = [] := by
  cases location <;> rfl

theorem mem_bucket_foldl_declare {location : Location} {param : RouteParam} :
    ∀ {list : List RouteParam} {params : RouteParams},
      param ∈ (list.foldl declare params).bucket location →
        param ∈ params.bucket location ∨ param ∈ list
  | [], _, h => .inl h
  | p :: list, params, h => by
      rw [List.foldl_cons] at h
      rcases mem_bucket_foldl_declare h with hbucket | hlist
      · by_cases hlocation : location = p.location
        · rw [hlocation, declare, bucket_setBucket_self] at hbucket
          rcases RouteParam.mem_replaceOrAppend hbucket with rfl | hold
          · exact .inr List.mem_cons_self
          · exact .inl (hlocation ▸ hold)
        · rw [declare, bucket_setBucket_of_ne hlocation] at hbucket
          exact .inl hbucket
      · exact .inr (List.mem_cons_of_mem _ hlist)

/-- No declared parameter is one that the path implies. -/
theorem ofImplied_notMem_ofDeclared (r : Resolver) (declared : List (OrRef Parameter))
    (location : Location) (implied : PathParameter) :
    RouteParam.ofImplied implied ∉ (ofDeclared r declared).bucket location := by
  intro h
  rcases mem_bucket_foldl_declare h with hempty | hlist
  · rw [bucket_empty] at hempty
    cases hempty
  · obtain ⟨entry, -, hof⟩ := List.mem_filterMap.mp hlist
    rw [RouteParam.ofEntry?_eq] at hof
    obtain ⟨p, -, hof⟩ := Option.bind_eq_some_iff.mp hof
    obtain ⟨-, -, -, -, horigin⟩ := RouteParam.of_ofDeclared? hof
    exact RouteParam.declaredOrigin_ne entry implied.token horigin.symm

/-! ## Implied parameters -/

/-- The path adds to the end of a bucket the parameters of its new names. -/
theorem bucket_foldl_imply (location : Location) (found : List PathParameter) (params : RouteParams) :
    (found.foldl imply params).bucket location = params.bucket location
      ++ (firstNew (·.name) (params.namesAt location)
        (found.filter (RouteParam.impliedLocation ·.place = location))).map
          RouteParam.ofImplied := by
  induction found generalizing params with
  | nil => exact (List.append_nil _).symm
  | cons i found ih =>
      rw [List.foldl_cons, ih, imply_eq]
      by_cases hlocation : RouteParam.impliedLocation i.place = location
      · subst hlocation
        rw [List.filter_cons_of_pos (by simp), firstNew]
        dsimp only
        split
        · rfl
        · rw [namesAt, bucket_setBucket_self, List.map_append, List.append_assoc]
          rfl
      · rw [List.filter_cons_of_neg (by simpa using hlocation)]
        dsimp only
        split
        · rfl
        · rw [namesAt, bucket_setBucket_of_ne (Ne.symm hlocation), namesAt]

section

variable {params : RouteParams} {implied : PathParameter} {location : Location}
  {found : List PathParameter}

/-- A name that is there keeps what the path implies under it out. -/
theorem ofImplied_notMem_foldl_imply (hname : implied.name ∈ params.namesAt location)
    (hbucket : RouteParam.ofImplied implied ∉ params.bucket location) :
    RouteParam.ofImplied implied ∉ (found.foldl imply params).bucket location := by
  rw [bucket_foldl_imply, List.mem_append, not_or]
  refine ⟨hbucket, fun hnew => ?_⟩
  obtain ⟨i, hi, heq⟩ := List.mem_map.mp hnew
  have hsame : i.name = implied.name := congrArg RouteParam.name heq
  exact key_notMem_of_mem_firstNew hi (hsame ▸ hname)

/-- A name that is not there lets in what the path implies under it, if that is one parameter. -/
theorem ofImplied_mem_foldl_imply (hlocation : location = RouteParam.impliedLocation implied.place)
    (h : implied ∈ found)
    (honly : ∀ other ∈ found, other.place = implied.place → other.name = implied.name →
      other = implied)
    (hname : implied.name ∉ params.namesAt location) :
    RouteParam.ofImplied implied ∈ (found.foldl imply params).bucket location := by
  have hhere : implied ∈ found.filter (RouteParam.impliedLocation ·.place = location) :=
    List.mem_filter.mpr ⟨h, decide_eq_true hlocation.symm⟩
  have hnew : implied.name ∈ (firstNew (·.name) (params.namesAt location)
      (found.filter (RouteParam.impliedLocation ·.place = location))).map (·.name) := by
    rw [map_key_firstNew, List.mem_filter, Text.mem_distinct]
    exact ⟨List.mem_map_of_mem hhere, decide_eq_true hname⟩
  obtain ⟨i, hi, hsame⟩ := List.mem_map.mp hnew
  obtain ⟨hmem, hplace⟩ := List.mem_filter.mp (isFirst_of_mem_firstNew hi).mem
  have hplace : i.place = implied.place :=
    RouteParam.impliedLocation_injective ((of_decide_eq_true hplace).trans hlocation)
  obtain rfl := honly i hmem hplace hsame
  rw [bucket_foldl_imply]
  exact List.mem_append_right _ (List.mem_map_of_mem hi)

end

/-- A declared parameter keeps out what the path implies under its name, except for a query parameter
whose name changes in camel casing: then the declaration of the changed name counts. -/
theorem ofImplied_mem_classify_iff (r : Resolver) (declared : List (OrRef Parameter)) (path : String)
    (implied : PathParameter)
    (himplied : implied ∈ (PathTemplate.ofPath path).pathParams ++
      (PathTemplate.ofPath path).queryParams)
    (hdeclared : Declares r declared (RouteParam.impliedLocation implied.place) implied.rawName) :
    RouteParam.ofImplied implied ∈ (classify r declared (.ofPath path)).bucket
        (RouteParam.impliedLocation implied.place) ↔
      implied.place = .query ∧ ¬ Declares r declared .query (camelName implied.rawName) := by
  show RouteParam.ofImplied implied ∈ (List.foldl imply (ofDeclared r declared) _).bucket _ ↔ _
  have hnone := ofImplied_notMem_ofDeclared r declared
    (RouteParam.impliedLocation implied.place) implied
  rcases List.mem_append.mp himplied with hpath | hquery
  · -- A path parameter is declared in camel casing too.
    have hplace := place_of_mem_pathParams hpath
    rw [hplace] at hdeclared hnone ⊢
    have hname : implied.name ∈ (ofDeclared r declared).namesAt .path := by
      rw [mem_namesAt_ofDeclared, PathTemplate.name_of_mem_pathParams hpath]
      exact ⟨implied.rawName, hdeclared, rfl⟩
    exact iff_of_false (ofImplied_notMem_foldl_imply hname hnone) fun h => nomatch h.1
  · obtain ⟨hplace, hcamel⟩ := PathTemplate.of_mem_queryParameters implied hquery
    have hname : implied.name ∈ (ofDeclared r declared).namesAt .query ↔
        Declares r declared .query (camelName implied.rawName) := by
      rw [mem_namesAt_ofDeclared, hcamel]
      constructor
      · rintro ⟨raw, hraw, hbucket⟩
        exact hbucket ▸ hraw
      · exact fun h => ⟨_, h, rfl⟩
    rw [hplace] at hnone ⊢
    rw [← hname]
    constructor
    · exact fun hmem => ⟨rfl, fun hthere => ofImplied_notMem_foldl_imply hthere hnone hmem⟩
    · rintro ⟨-, hnew⟩
      refine ofImplied_mem_foldl_imply (hplace ▸ rfl) himplied (fun other hother hsame hsameName => ?_)
        hnew
      rcases List.mem_append.mp hother with hother | hother
      · rw [place_of_mem_pathParams hother, hplace] at hsame
        cases hsame
      · exact List.inj_on_of_nodup_map (PathTemplate.nodup_name_queryParameters _) hother hquery
          hsameName

/-- A declared path parameter keeps the one of its token out. A declared `page_size` does not keep out
the `pageSize` that a query expansion implies. -/
theorem ofImplied_of_items :
    RouteParam.ofImplied ⟨"\x7bitem-id\x7d", "itemId", .path⟩ ∉
      (classify ⟨{}, {}⟩ [.inline { name := some "item-id", location := some .path }]
        (.ofPath "/items/\x7bitem-id\x7d")).bucket .path ∧
    RouteParam.ofImplied ⟨"page_size", "pageSize", .query⟩ ∈
      (classify ⟨{}, {}⟩ [.inline { name := some "page_size", location := some .query }]
        (.ofPath "/items\x7b?page_size\x7d")).bucket .query := by
  constructor
  · refine fun h => nomatch ((ofImplied_mem_classify_iff _ _ _
      ⟨"\x7bitem-id\x7d", "itemId", .path⟩ (by decide +kernel) ?_).mp h).1
    exact ⟨by decide +kernel, _, List.mem_singleton_self _, _, rfl, rfl, by decide +kernel⟩
  · refine (ofImplied_mem_classify_iff _ _ _
      ⟨"page_size", "pageSize", .query⟩ (by decide +kernel) ?_).mpr ⟨rfl, ?_⟩
    · exact ⟨by decide, _, List.mem_singleton_self _, _, rfl, rfl, rfl⟩
    · rintro ⟨-, entry, hentry, param, hparam, -, hname⟩
      obtain rfl := List.mem_singleton.mp hentry
      obtain rfl := Option.some.inj hparam
      exact absurd hname (by decide +kernel)

end RouteParams

end ApiRoutes
