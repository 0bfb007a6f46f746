import ApiRoutes.Proofs.Naming.Numbering
import Mathlib.Data.List.Nodup

/-!
# The arguments of a route

A call of a route takes one argument for each path parameter, and up to four that bundle the query,
the body, the path parameters and the headers. All of them differ in name.

- **Within a bucket** the names of parameters differ: whether a parameter is declared, referenced or
  implied by the path, the names of its bucket change by `Text.addNew` (`namesAt_declare`,
  `namesAt_imply`), which repeats nothing and forgets nothing.
- **The bundles** are named one after the other. Each stage reserves the names it hands out, none of
  which was reserved before (`Reserves`), so that the stages can be composed.

The body of the route then goes by the name of its argument.
-/

namespace ApiRoutes

/-! ## Names in a bucket -/

namespace Text

theorem mem_addNew {α : Type} [DecidableEq α] {seen : List α} {x y : α} :
    x ∈ addNew seen y ↔ x ∈ seen ∨ x = y := by
  have h : x ∈ [y].foldl addNew seen ↔ x ∈ seen ∨ x ∈ [y] := mem_foldl_addNew seen
  rwa [List.mem_singleton] at h

theorem nodup_addNew {α : Type} [DecidableEq α] {seen : List α} (h : seen.Nodup) (x : α) :
    (addNew seen x).Nodup :=
  nodup_foldl_addNew [x] h

end Text

namespace RouteParams

@[simp] theorem bucket_setBucket_self (params : RouteParams) (location : Location)
    (bucket : List RouteParam) : (params.setBucket location bucket).bucket location = bucket := by
  cases location with
  | other name => simp [RouteParams.setBucket, RouteParams.bucket]
  | _ => rfl

theorem bucket_setBucket_of_ne {location other : Location} (h : other ≠ location)
    (params : RouteParams) (bucket : List RouteParam) :
    (params.setBucket location bucket).bucket other = params.bucket other := by
  cases location with
  | other name =>
      cases other with
      | other name' =>
          have hname : name' ≠ name := fun heq => h (congrArg _ heq)
          simp [RouteParams.setBucket, RouteParams.bucket, Entries.find?_insert_of_ne hname]
      | _ => rfl
  | _ =>
      cases other with
      | other name' => rfl
      | _ => first | rfl | exact absurd rfl h

/-- The names of the parameters at a location. -/
def namesAt (params : RouteParams) (location : Location) : List String :=
  (params.bucket location).map (·.name)

theorem namesAt_empty (location : Location) : ({} : RouteParams).namesAt location = [] := by
  cases location <;> rfl

theorem map_name_replaceOrAppend (param : RouteParam) (bucket : List RouteParam) :
    (param.replaceOrAppend bucket).map (·.name)
      = Text.addNew (bucket.map (·.name)) param.name := by
  induction bucket with
  | nil => rfl
  | cons p rest ih =>
      unfold RouteParam.replaceOrAppend
      by_cases hname : p.name = param.name
      · rw [if_pos hname]
        simp [Text.addNew, hname]
      · rw [if_neg hname, List.map_cons, ih]
        by_cases hmem : param.name ∈ rest.map (·.name)
        · simp [Text.addNew, hmem]
        · simp [Text.addNew, hmem, Ne.symm hname]

/-- A declared parameter adds its name to its bucket, and changes the names of no other. -/
theorem namesAt_declare (params : RouteParams) (param : RouteParam) (location : Location) :
    (params.declare param).namesAt location =
      if location = param.location then Text.addNew (params.namesAt location) param.name
      else params.namesAt location := by
  unfold declare namesAt
  split
  · rename_i heq
    rw [heq, bucket_setBucket_self, map_name_replaceOrAppend]
  · rename_i hne
    rw [bucket_setBucket_of_ne hne]

theorem imply_eq (params : RouteParams) (implied : PathParameter) :
    params.imply implied =
      let location := RouteParam.impliedLocation implied.place
      if implied.name ∈ params.namesAt location then params
      else params.setBucket location
        (params.bucket location ++ [RouteParam.ofImplied implied]) := by
  simp [imply, namesAt, List.any_eq_true]

/-- So does an implied one. -/
theorem namesAt_imply (params : RouteParams) (implied : PathParameter) (location : Location) :
    (params.imply implied).namesAt location =
      if location = RouteParam.impliedLocation implied.place then
        Text.addNew (params.namesAt location) implied.name
      else params.namesAt location := by
  simp only [imply_eq]
  by_cases hmem : implied.name ∈ params.namesAt (RouteParam.impliedLocation implied.place)
  · rw [if_pos hmem]
    split
    · rename_i heq
      rw [heq, Text.addNew, if_pos hmem]
    · rfl
  · rw [if_neg hmem]
    split
    · rename_i heq
      rw [heq, Text.addNew, if_neg hmem, namesAt, bucket_setBucket_self, List.map_append]
      rfl
    · rename_i hne
      rw [namesAt, bucket_setBucket_of_ne hne, namesAt]

theorem nodup_namesAt_declare {params : RouteParams} {location : Location}
    (h : (params.namesAt location).Nodup) (param : RouteParam) :
    ((params.declare param).namesAt location).Nodup := by
  rw [namesAt_declare]
  split
  · exact Text.nodup_addNew h _
  · exact h

theorem nodup_namesAt_imply {params : RouteParams} {location : Location}
    (h : (params.namesAt location).Nodup) (implied : PathParameter) :
    ((params.imply implied).namesAt location).Nodup := by
  rw [namesAt_imply]
  split
  · exact Text.nodup_addNew h _
  · exact h

/-- The parameters of a route differ in name within each bucket. -/
theorem nodup_namesAt_classify (r : Resolver) (declared : List (OrRef Parameter))
    (template : PathTemplate) (location : Location) :
    ((classify r declared template).namesAt location).Nodup := by
  have hdeclared : (((declared.filterMap (RouteParam.ofEntry? r)).foldl declare {}).namesAt
      location).Nodup :=
    List.foldlRecOn (motive := fun params : RouteParams => (params.namesAt location).Nodup) _ _
      (namesAt_empty location ▸ List.nodup_nil) fun _ h param _ => nodup_namesAt_declare h param
  exact List.foldlRecOn (motive := fun params : RouteParams => (params.namesAt location).Nodup) _ _
    hdeclared fun _ h implied _ => nodup_namesAt_imply h implied

theorem mem_namesAt_imply_of_mem {params : RouteParams} {location : Location} {name : String}
    (h : name ∈ params.namesAt location) (implied : PathParameter) :
    name ∈ (params.imply implied).namesAt location := by
  rw [namesAt_imply]
  split
  · exact Text.mem_addNew.mpr (.inl h)
  · exact h

/-- What the path implies is there in the end. -/
theorem mem_namesAt_foldl_imply {implied : PathParameter} :
    ∀ {found : List PathParameter} (params : RouteParams), implied ∈ found →
      implied.name ∈ (found.foldl imply params).namesAt (RouteParam.impliedLocation implied.place)
  | [], _, h => nomatch h
  | first :: found, params, h => by
      rw [List.foldl_cons]
      rcases List.mem_cons.mp h with rfl | hrest
      · have hadded : implied.name ∈
            (params.imply implied).namesAt (RouteParam.impliedLocation implied.place) := by
          rw [namesAt_imply, if_pos rfl]
          exact Text.mem_addNew.mpr (.inr rfl)
        exact List.foldlRecOn
          (motive := fun params : RouteParams =>
            implied.name ∈ params.namesAt (RouteParam.impliedLocation implied.place)) _ _
          hadded fun _ hmem later _ => mem_namesAt_imply_of_mem hmem later
      · exact mem_namesAt_foldl_imply _ hrest

theorem mem_namesAt_classify (r : Resolver) (declared : List (OrRef Parameter))
    {template : PathTemplate} {implied : PathParameter}
    (h : implied ∈ template.pathParams ++ template.queryParams) :
    implied.name ∈
      (classify r declared template).namesAt (RouteParam.impliedLocation implied.place) :=
  mem_namesAt_foldl_imply _ h

end RouteParams

/-- The tokens of a path imply path parameters. -/
theorem place_of_mem_pathParams {path : String} {implied : PathParameter}
    (h : implied ∈ (PathTemplate.ofPath path).pathParams) : implied.place = .path := by
  obtain ⟨piece, -, hpiece⟩ := List.mem_filterMap.mp h
  cases piece with
  | literal c => cases hpiece
  | found written name => cases hpiece; rfl

/-! ## Handing out names -/

/-- A stage that hands out names: they are reserved after it, and none of them was before. -/
structure Reserves (names : ArgNames) (given : List String) (after : ArgNames) : Prop where
  reserved_eq : after.reserved = names.reserved ++ given
  nodup : names.reserved.Nodup → after.reserved.Nodup

namespace Reserves

variable {names between after : ArgNames} {first second : List String}

theorem refl (names : ArgNames) : Reserves names [] names :=
  ⟨(List.append_nil _).symm, id⟩

theorem trans (h : Reserves names first between) (h' : Reserves between second after) :
    Reserves names (first ++ second) after := by
  refine ⟨?_, fun hnodup => h'.nodup (h.nodup hnodup)⟩
  rw [h'.reserved_eq, h.reserved_eq, List.append_assoc]

end Reserves

theorem reserves_of_resolve {names after : ArgNames} {candidates : List String} {name : String}
    (h : names.resolve candidates = .ok (name, after)) : Reserves names [name] after := by
  unfold ArgNames.resolve at h
  split at h
  · rename_i found hfound
    cases h
    have hfree : name ∉ names.reserved := by simpa using List.find?_some hfound
    refine ⟨rfl, fun hnodup => ?_⟩
    show (names.reserved ++ [name]).Nodup
    rw [← List.concat_eq_append]
    exact hnodup.concat hfree
  · cases h

/-- The name of a bundle, if there is one. -/
def bundleName (arg : Option SpecificArg) : List String := (arg.map (·.name)).toList

theorem SpecificArgs.names_eq (args : SpecificArgs) :
    args.names = bundleName args.query ++ (bundleName args.body
      ++ (bundleName args.pathParams ++ bundleName args.headers)) := by
  obtain ⟨query, body, pathParams, headers⟩ := args
  cases query <;> cases body <;> cases pathParams <;> cases headers <;> rfl

namespace Assembler

theorem reserves_of_bucketArg {r : Resolver} {params : RouteParams} {location : Location}
    {candidates : List String} {names after : ArgNames} {arg : Option SpecificArg}
    (h : bucketArg r params location candidates names = .ok (arg, after)) :
    Reserves names (bundleName arg) after := by
  unfold bucketArg at h
  split at h
  · cases h; exact .refl names
  · obtain ⟨⟨name, names'⟩, hname, h⟩ := bind_ok h
    cases h
    exact reserves_of_resolve hname

theorem reserves_of_bodyArg {body : RequestBodyInfo} {names after : ArgNames}
    {arg : Option SpecificArg} (h : bodyArg body names = .ok (arg, after)) :
    Reserves names (bundleName arg) after := by
  unfold bodyArg at h
  split at h
  · cases h; exact .refl names
  · obtain ⟨⟨name, names'⟩, hname, h⟩ := bind_ok h
    cases h
    exact reserves_of_resolve hname

/-- A body with a type has an argument. -/
theorem exists_of_bodyArg {body : RequestBodyInfo} {names after : ArgNames}
    {arg : Option SpecificArg} {type : String} (h : bodyArg body names = .ok (arg, after))
    (htype : body.type = some type) : ∃ given, arg = some given := by
  unfold bodyArg at h
  rw [htype] at h
  obtain ⟨⟨name, names'⟩, -, h⟩ := bind_ok h
  cases h
  exact ⟨_, rfl⟩

/-- The stages of naming the bundles, in order. -/
theorem specificArgs_ok {r : Resolver} {params : RouteParams} {pathArgs : List PathArg}
    {body : RequestBodyInfo} {args : SpecificArgs}
    (h : specificArgs r params pathArgs body = .ok args) :
    ∃ afterQuery afterBody afterPath afterHeaders,
      bucketArg r params .query ArgNames.forQuery ⟨pathArgs.map (·.name)⟩
          = .ok (args.query, afterQuery)
        ∧ bodyArg body afterQuery = .ok (args.body, afterBody)
        ∧ bucketArg r params .path ArgNames.forPathParams afterBody
          = .ok (args.pathParams, afterPath)
        ∧ bucketArg r params .header ArgNames.forHeaders afterPath
          = .ok (args.headers, afterHeaders) := by
  obtain ⟨⟨query, afterQuery⟩, hquery, h⟩ := bind_ok h
  obtain ⟨⟨given, afterBody⟩, hbody, h⟩ := bind_ok h
  obtain ⟨⟨pathParams, afterPath⟩, hpath, h⟩ := bind_ok h
  obtain ⟨⟨headers, afterHeaders⟩, hheaders, h⟩ := bind_ok h
  cases h
  exact ⟨afterQuery, afterBody, afterPath, afterHeaders, hquery, hbody, hpath, hheaders⟩

/-- The names of the bundles differ from each other and from those of the path parameters. -/
theorem nodup_names_specificArgs {r : Resolver} {params : RouteParams} {pathArgs : List PathArg}
    {body : RequestBodyInfo} {args : SpecificArgs}
    (h : specificArgs r params pathArgs body = .ok args)
    (hpathArgs : (pathArgs.map (·.name)).Nodup) :
    (pathArgs.map (·.name) ++ args.names).Nodup := by
  obtain ⟨_, _, _, after, hquery, hbody, hpath, hheaders⟩ := specificArgs_ok h
  have hall : Reserves ⟨pathArgs.map (·.name)⟩ args.names after :=
    args.names_eq ▸ (reserves_of_bucketArg hquery).trans ((reserves_of_bodyArg hbody).trans
      ((reserves_of_bucketArg hpath).trans (reserves_of_bucketArg hheaders)))
  rw [← hall.reserved_eq]
  exact hall.nodup hpathArgs

theorem map_name_pathArgs (r : Resolver) (params : RouteParams) :
    (pathArgs r params).map (·.name) = params.namesAt .path :=
  List.map_map

end Assembler

/-! ## The arguments of a finished route -/

/-- **Argument names.** In a successful run with default hooks the arguments of each route differ in
name, every parameter of the path has its argument, and a body with a type has one that goes by the
same name as the body. -/
theorem arguments_of_run {doc : Document} {options : RouteOptions} {result : RunResult}
    (h : run doc options = .ok result) : ∀ route ∈ result.routes.routes,
      (route.pathArgs.map (·.name) ++ route.specificArgs.names).Nodup
        ∧ (∀ implied ∈ (PathTemplate.ofPath route.raw.declaredPath).pathParams,
            ∃ arg ∈ route.pathArgs, arg.name = implied.name)
        ∧ ∀ type, route.requestBody.type = some type →
            ∃ arg, route.specificArgs.body = some arg ∧ arg.name = route.requestBody.name := by
  obtain ⟨template, progress, -, hprogress, hroutes, -⟩ := routes_of_run h
  intro route hroute
  obtain ⟨entry, -, state, base, args, -, hargs, rfl⟩ :=
    Progress.exists_of_mem_routes rfl hprogress route (hroutes ▸ hroute)
  refine ⟨?_, ?_, ?_⟩
  · refine Assembler.nodup_names_specificArgs hargs ?_
    show ((Assembler.pathArgs _ _).map (·.name)).Nodup
    rw [Assembler.map_name_pathArgs]
    exact RouteParams.nodup_namesAt_classify _ _ _ .path
  · intro implied himplied
    have hmem := RouteParams.mem_namesAt_classify (.ofDocument doc options.affixes)
      (entry.shared ++ entry.operation.parameters) (List.mem_append_left _ himplied)
    rw [place_of_mem_pathParams himplied] at hmem
    exact List.mem_map.mp ((Assembler.map_name_pathArgs _ _).symm ▸ hmem)
  · intro type htype
    obtain ⟨_, _, _, _, -, hbody, -, -⟩ := Assembler.specificArgs_ok hargs
    obtain ⟨arg, harg⟩ :=
      Assembler.exists_of_bodyArg hbody ((Assembler.renameBody_type _ args).symm.trans htype)
    refine ⟨arg, harg, ?_⟩
    show arg.name = (Assembler.renameBody _ args).name
    rw [Assembler.renameBody, harg]

/-- An operation whose path parameter has the name that its body would get first. -/
def uploadDocument : Document :=
  { openapi := "3.0.0"
    info := { title := "Uploads", version := "1" }
    paths := [("/uploads/\x7bdata\x7d", { operations := [
      (.put, {
        parameters := [.inline {
          name := some "size"
          location := some .query
          schema := some (.inline .string) }]
        requestBody := some (.inline {
          content := [("text/plain", { schema := some (.inline .string) })] }) })] })] }

/-- The body of an upload goes by its second candidate. -/
theorem arguments_of_upload : ∃ result route,
    run uploadDocument {} = .ok result ∧ route ∈ result.routes.routes
      ∧ route.requestBody.type = some "string"
      ∧ (route.pathArgs.map (·.name) ++ route.specificArgs.names).Nodup
      ∧ route.pathArgs.map (·.name) ++ route.specificArgs.names = ["data", "query", "body", "path"]
      ∧ ∃ arg, route.specificArgs.body = some arg ∧ arg.name = route.requestBody.name := by
  obtain ⟨result, hrun, hroutes⟩ := exists_ok_of_map
    (show (run uploadDocument {}).toOption.map (fun result => result.routes.routes.map fun route =>
        (route.requestBody.type, route.pathArgs.map (·.name) ++ route.specificArgs.names))
      = some [(some "string", ["data", "query", "body", "path"])] by decide +kernel)
  have hone : (some "string", ["data", "query", "body", "path"]) ∈
      result.routes.routes.map fun route =>
        (route.requestBody.type, route.pathArgs.map (·.name) ++ route.specificArgs.names) :=
    hroutes ▸ List.mem_singleton_self _
  obtain ⟨route, hroute, hboth⟩ := List.mem_map.mp hone
  obtain ⟨htype, hnames⟩ := Prod.mk.inj hboth
  obtain ⟨hnodup, -, hbody⟩ := arguments_of_run hrun route hroute
  exact ⟨result, route, hrun, hroute, htype, hnodup, hnames, hbody _ htype⟩

end ApiRoutes
