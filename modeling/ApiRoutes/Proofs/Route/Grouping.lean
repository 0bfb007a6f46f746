import ApiRoutes.Proofs.Route.Positions
import Mathlib.Data.List.Nodup

/-!
# Grouping is a partition

Grouping does two things with a list of routes, whichever routes these are: it gives some of them
their own name back, and it sorts the positions of all of them into modules.

- **Names.** A route regains its name by what it asked for and by what the other routes of its module
  asked for (`RegainsName`). What routes go by is written, what they asked for is only read, so that
  no order of going through the routes makes a difference: a scan that writes each name in its place
  (`restoreAt`) comes to the same routes (`foldl_restoreAt`).
- **Positions.** The modules together with the positions of the routes in no module are a permutation
  of all positions (`perm_ofRoutes`), and what is known of the positions of a namespace holds of its
  module (`isPartition_ofRoutes`).

`isPartition_group` puts the two together: modules are sorted by the names that were restored.
-/

namespace ApiRoutes

namespace RouteGroups

variable {routes : List Route}

/-! ## Modules -/

/-- The modules of routes hold every position once, each under its route's namespace, in the order
in which the namespaces are first seen. -/
structure IsPartition (options : ModuleOptions) (routes : List Route) (groups : RouteGroups) :
    Prop where
  perm : (groups.modules.flatMap (·.routes) ++ groups.outOfModule).Perm (List.range routes.length)
  nodup_name : (groups.modules.map (·.name)).Nodup
  routes_ne_nil : ∀ module ∈ groups.modules, module.routes ≠ []
  namespace_eq : ∀ module ∈ groups.modules, ∀ i ∈ module.routes,
    ∃ route, routes[i]? = some route ∧ route.namespaceName = some module.name
  outOfModule : ∀ i ∈ groups.outOfModule,
    ∃ route, routes[i]? = some route ∧ route.namespaceName = none
  ordered : groups.modules.Pairwise fun first second =>
    ∃ i ∈ first.routes, ∀ j ∈ second.routes, i < j
  ascending : options.sortRoutes = false →
    ∀ module ∈ groups.modules, module.routes.Pairwise (· < ·)
  sorted : options.sortRoutes = true →
    ∀ module ∈ groups.modules, module.routes.Pairwise (ByName routes)

/-- The positions of a namespace in the order of its module. -/
def moduleOrder (options : ModuleOptions) (routes : List Route) (name : String) : List Nat :=
  if options.sortRoutes then sortByName routes (positions routes (some name))
  else positions routes (some name)

theorem modules_ofRoutes (options : ModuleOptions) (routes : List Route) :
    (ofRoutes options routes).modules
      = (namespaces routes).map fun name => ⟨name, moduleOrder options routes name⟩ :=
  rfl

theorem moduleOrder_perm (options : ModuleOptions) (routes : List Route) (name : String) :
    (moduleOrder options routes name).Perm (positions routes (some name)) := by
  unfold moduleOrder
  split
  · exact sortByName_perm routes _
  · exact .refl _

theorem mem_moduleOrder {options : ModuleOptions} {name : String} {i : Nat} :
    i ∈ moduleOrder options routes name ↔
      ∃ route, routes[i]? = some route ∧ route.namespaceName = some name :=
  (moduleOrder_perm options routes name).mem_iff.trans mem_positions

/-- No position is in two modules, or in one twice. -/
theorem nodup_flatMap_moduleOrder (options : ModuleOptions) (routes : List Route) :
    ((namespaces routes).flatMap (moduleOrder options routes)).Nodup := by
  refine List.nodup_flatMap.mpr ⟨fun name _ => ?_, (Text.nodup_distinct _).imp ?_⟩
  · exact (moduleOrder_perm options routes name).nodup_iff.mpr (nodup_positions routes _)
  · intro first second hne i hfirst hsecond
    obtain ⟨route, hi, hname⟩ := mem_moduleOrder.mp hfirst
    obtain ⟨route', hi', hname'⟩ := mem_moduleOrder.mp hsecond
    obtain rfl := Option.some.inj (hi.symm.trans hi')
    exact hne (Option.some.inj (hname.symm.trans hname'))

theorem mem_flatMap_moduleOrder {options : ModuleOptions} {i : Nat} :
    i ∈ (namespaces routes).flatMap (moduleOrder options routes) ↔
      ∃ route, routes[i]? = some route ∧ route.namespaceName ≠ none := by
  rw [List.mem_flatMap]
  constructor
  · rintro ⟨name, -, hi⟩
    obtain ⟨route, hi, hname⟩ := mem_moduleOrder.mp hi
    exact ⟨route, hi, hname ▸ Option.some_ne_none name⟩
  · rintro ⟨route, hi, hmodule⟩
    obtain ⟨name, hname⟩ := Option.ne_none_iff_exists'.mp hmodule
    have hmem : i ∈ positions routes (some name) := mem_positions.mpr ⟨route, hi, hname⟩
    exact ⟨name, mem_namespaces.mpr ⟨i, hmem⟩, mem_moduleOrder.mpr ⟨route, hi, hname⟩⟩

/-- Every position is in one module or in none. -/
theorem perm_ofRoutes (options : ModuleOptions) (routes : List Route) :
    ((ofRoutes options routes).modules.flatMap (·.routes)
      ++ (ofRoutes options routes).outOfModule).Perm (List.range routes.length) := by
  have hnodup : ((namespaces routes).flatMap (moduleOrder options routes)
      ++ positions routes none).Nodup := by
    refine List.nodup_append.mpr
      ⟨nodup_flatMap_moduleOrder options routes, nodup_positions routes none, ?_⟩
    rintro i hmodule _ hout rfl
    obtain ⟨route, hi, hsome⟩ := mem_flatMap_moduleOrder.mp hmodule
    obtain ⟨route', hi', hnone⟩ := mem_positions.mp hout
    obtain rfl := Option.some.inj (hi.symm.trans hi')
    exact hsome hnone
  -- no position is there twice, so that it is enough to compare the members
  rw [modules_ofRoutes, List.flatMap_map]
  refine (List.perm_ext_iff_of_nodup hnodup List.nodup_range).mpr fun i => ?_
  rw [List.mem_append, List.mem_range, mem_flatMap_moduleOrder, mem_positions]
  constructor
  · rintro (⟨route, hi, -⟩ | ⟨route, hi, -⟩)
    · exact (List.getElem?_eq_some_iff.mp hi).1
    · exact (List.getElem?_eq_some_iff.mp hi).1
  · intro hlt
    have hi := List.getElem?_eq_getElem hlt
    by_cases hnone : routes[i].namespaceName = none
    · exact .inr ⟨_, hi, hnone⟩
    · exact .inl ⟨_, hi, hnone⟩

theorem isPartition_ofRoutes (options : ModuleOptions) (routes : List Route) :
    IsPartition options routes (ofRoutes options routes) where
  perm := perm_ofRoutes options routes
  nodup_name := by
    rw [modules_ofRoutes, List.map_map]
    exact (List.map_id _).symm ▸ Text.nodup_distinct _
  routes_ne_nil := by
    rw [modules_ofRoutes]
    refine List.forall_mem_map.mpr fun name hname => ?_
    obtain ⟨i, hi⟩ := mem_namespaces.mp hname
    exact List.ne_nil_of_mem ((moduleOrder_perm options routes name).mem_iff.mpr hi)
  namespace_eq := by
    rw [modules_ofRoutes]
    exact List.forall_mem_map.mpr fun name _ i hi => mem_moduleOrder.mp hi
  outOfModule := fun i hi => mem_positions.mp hi
  ordered := by
    rw [modules_ofRoutes, List.pairwise_map]
    refine (ordered_namespaces routes).imp ?_
    rintro first second ⟨i, hi, hlt⟩
    exact ⟨i, (moduleOrder_perm options routes first).mem_iff.mpr hi, fun j hj =>
      hlt j ((moduleOrder_perm options routes second).mem_iff.mp hj)⟩
  ascending := by
    intro hsort
    rw [modules_ofRoutes]
    refine List.forall_mem_map.mpr fun name _ => ?_
    simp only [moduleOrder, hsort]
    exact pairwise_positions routes _
  sorted := by
    intro hsort
    rw [modules_ofRoutes]
    refine List.forall_mem_map.mpr fun name _ => ?_
    simp only [moduleOrder, hsort]
    exact pairwise_sortByName (pairwise_positions routes _)

end RouteGroups

/-! ## Names that are regained -/

/-- The route going by its own name. -/
def Route.withOwnName (route : Route) : Route :=
  { route with routeName := { route.routeName with usage := route.routeName.base } }

namespace RouteGroups

variable {routes : List Route}

/-- A route that does not go by its own name shares its module with other routes, and its name with
none of them. -/
structure RegainsName (routes : List Route) (i : Nat) (route : Route) : Prop where
  usage_ne : route.routeName.usage ≠ route.routeName.base
  hasModule : route.namespaceName ≠ none
  hasOthers : ∃ j other, j ≠ i ∧ routes[j]? = some other
    ∧ other.namespaceName = route.namespaceName
  base_ne : ∀ j other, j ≠ i → routes[j]? = some other →
    other.namespaceName = route.namespaceName → other.routeName.base ≠ route.routeName.base

theorem mem_others {name : String} {i j : Nat} :
    j ∈ (positions routes (some name)).filter (· ≠ i) ↔
      j ≠ i ∧ ∃ other, routes[j]? = some other ∧ other.namespaceName = some name := by
  rw [List.mem_filter, mem_positions, decide_eq_true_eq, and_comm]

theorem regainsName_iff {i : Nat} {route : Route} :
    regainsName routes i route = true ↔ RegainsName routes i route := by
  unfold regainsName
  split
  · rename_i hnone
    exact ⟨Bool.noConfusion, fun h => absurd hnone h.hasModule⟩
  · rename_i name hname
    simp only [Bool.and_eq_true, decide_eq_true_eq, Bool.not_eq_true', List.isEmpty_eq_false_iff,
      List.any_eq_false]
    constructor
    · rintro ⟨⟨hne, hothers⟩, hbase⟩
      obtain ⟨j, hj⟩ := List.exists_mem_of_ne_nil _ hothers
      obtain ⟨hji, other, hother, hmodule⟩ := mem_others.mp hj
      refine ⟨hne, by rw [hname]; exact Option.some_ne_none name,
        ⟨j, other, hji, hother, hmodule.trans hname.symm⟩, ?_⟩
      intro j other hji hother hmodule hsame
      refine hbase j (mem_others.mpr ⟨hji, other, hother, hmodule.trans hname⟩) ?_
      rw [hother, Option.map_some, hsame]
    · rintro ⟨hne, -, ⟨j, other, hji, hother, hmodule⟩, hbase⟩
      refine ⟨⟨hne, List.ne_nil_of_mem
        (mem_others.mpr ⟨hji, other, hother, hmodule.trans hname⟩)⟩, ?_⟩
      intro j hj
      obtain ⟨hji, other, hother, hmodule⟩ := mem_others.mp hj
      rw [hother, Option.map_some, Option.some.injEq]
      exact hbase j other hji hother (hmodule.trans hname.symm)

/-- A route after its name was restored, if it is to be. -/
def restored (routes : List Route) (i : Nat) (route : Route) : Route :=
  if regainsName routes i route then route.withOwnName else route

theorem getElem?_restoreNames (routes : List Route) (i : Nat) :
    (restoreNames routes)[i]? = routes[i]?.map (restored routes i) := by
  unfold restoreNames
  rw [List.getElem?_map, List.getElem?_zipIdx, Option.map_map, Nat.zero_add]
  rfl

/-! ## Scanning -/

/-- Restores the name of the route at a position, in its place. -/
def restoreAt (routes : List Route) (i : Nat) : List Route :=
  routes.modify i (restored routes i)

/-- Whether a route regains its name does not depend on what other routes go by. -/
theorem regainsName_congr {other : List Route}
    (h : other.map Route.withOwnName = routes.map Route.withOwnName) (i : Nat) (route : Route) :
    regainsName other i route = regainsName routes i route := by
  have hown : ∀ list : List Route,
      regainsName (list.map Route.withOwnName) i route = regainsName list i route := by
    intro list
    simp only [regainsName, positions_map (f := Route.withOwnName) (fun _ => rfl),
      List.getElem?_map, Option.map_map, Function.comp_def, Route.withOwnName]
  rw [← hown, h, hown]

theorem restored_restored (routes : List Route) (i : Nat) (route : Route) :
    restored routes i (restored routes i route) = restored routes i route := by
  unfold restored
  split
  · rw [if_neg]
    exact fun h => (regainsName_iff.mp h).usage_ne rfl
  · rfl

theorem withOwnName_restored (routes : List Route) (i : Nat) (route : Route) :
    (restored routes i route).withOwnName = route.withOwnName := by
  unfold restored
  split <;> rfl

/-- The routes after some positions were visited. -/
def Scanned (routes : List Route) (visited : List Nat) (current : List Route) : Prop :=
  ∀ i : Nat, current[i]? = routes[i]?.map fun route =>
    if i ∈ visited then restored routes i route else route

theorem Scanned.map_withOwnName {visited : List Nat} {current : List Route}
    (h : Scanned routes visited current) :
    current.map Route.withOwnName = routes.map Route.withOwnName := by
  refine List.ext_getElem? fun i => ?_
  rw [List.getElem?_map, List.getElem?_map, h i, Option.map_map]
  congr 1
  funext route
  simp only [Function.comp_apply]
  split
  · exact withOwnName_restored routes i route
  · rfl

/-- One more visit. It reads what was written before it, yet writes what it would have written
first. -/
theorem Scanned.restoreAt {visited : List Nat} {current : List Route}
    (h : Scanned routes visited current) (i : Nat) :
    Scanned routes (visited ++ [i]) (restoreAt current i) := by
  have hrestored : restored current i = restored routes i := by
    funext route
    rw [restored, restored, regainsName_congr h.map_withOwnName]
  intro j
  unfold RouteGroups.restoreAt
  rw [List.getElem?_modify, h j, hrestored]
  cases routes[j]? with
  | none => rfl
  | some route =>
      show some _ = some _
      congr 1
      by_cases hij : i = j
      · subst hij
        by_cases hvisited : i ∈ visited
        · simp [hvisited, restored_restored]
        · simp [hvisited]
      · simp [hij, Ne.symm hij]

theorem scanned_foldl (routes : List Route) (visits : List Nat) :
    Scanned routes visits (visits.foldl RouteGroups.restoreAt routes) := by
  induction visits using List.reverseRecOn with
  | nil => exact fun i => by simp
  | append_singleton visited i ih =>
      rw [List.foldl_append]
      exact ih.restoreAt i

/-- A scan that visits the routes of all modules, in any order, restores all names. -/
theorem foldl_restoreAt {visits : List Nat}
    (h : ∀ i route, routes[i]? = some route → route.namespaceName ≠ none → i ∈ visits) :
    visits.foldl restoreAt routes = restoreNames routes := by
  refine List.ext_getElem? fun i => ?_
  rw [scanned_foldl routes visits i, getElem?_restoreNames]
  cases hi : routes[i]? with
  | none => rfl
  | some route =>
      show some _ = some _
      congr 1
      split
      · rfl
      · rename_i hnot
        rw [restored, if_neg]
        exact fun hregains => hnot (h i route hi (regainsName_iff.mp hregains).hasModule)

/-- The later list has the routes of the earlier one, of which some go by their own names again. No
order in which the names are restored one after the other matters. -/
structure NamesRestored (routes later : List Route) : Prop where
  length_eq : later.length = routes.length
  of_regainsName : ∀ i route, routes[i]? = some route → RegainsName routes i route →
    later[i]? = some route.withOwnName
  of_not_regainsName : ∀ i route, routes[i]? = some route → ¬ RegainsName routes i route →
    later[i]? = some route
  eq_foldl : ∀ visits : List Nat,
    (∀ i route, routes[i]? = some route → route.namespaceName ≠ none → i ∈ visits) →
    later = visits.foldl restoreAt routes

theorem namesRestored_restoreNames (routes : List Route) :
    NamesRestored routes (restoreNames routes) where
  length_eq := by rw [restoreNames, List.length_map, List.length_zipIdx]
  of_regainsName := by
    intro i route hi hregains
    rw [getElem?_restoreNames, hi, Option.map_some, restored, if_pos (regainsName_iff.mpr hregains)]
  of_not_regainsName := by
    intro i route hi hnot
    rw [getElem?_restoreNames, hi, Option.map_some, restored,
      if_neg fun hregains => hnot (regainsName_iff.mp hregains)]
  eq_foldl := fun _ hvisits => (foldl_restoreAt hvisits).symm

/-- **Grouping.** Whatever the routes, grouping changes nothing about them but that some regain
their own names, and its modules are a partition of their positions, sorted by the names that the
routes go by in the end. -/
theorem isPartition_group (options : ModuleOptions) (routes : List Route) :
    NamesRestored routes (group options routes).1
      ∧ IsPartition options (group options routes).1 (group options routes).2 :=
  ⟨namesRestored_restoreNames routes, isPartition_ofRoutes options (restoreNames routes)⟩

/-- The first route was numbered for one that is gone; by the name that it regains it comes before
the second one. -/
example :
    let users (base usage : String) : Route :=
      { (default : Route) with
        namespaceName := some "users", routeName := ⟨base, usage, base ≠ usage⟩ }
    (group { sortRoutes := true } [users "b" "b2", default, users "b1" "b1", users "a" "a"]).2
      = ⟨[⟨"users", [3, 0, 2]⟩], [1]⟩ := by
  decide +kernel

end RouteGroups

end ApiRoutes
