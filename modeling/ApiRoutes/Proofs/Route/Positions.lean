import ApiRoutes.Route.Grouping
import Mathlib.Data.List.Induction
import Mathlib.Data.String.Basic

/-!
# Positions of routes

Modules hold routes by their positions. The positions of the routes with one namespace ascend, and
the namespaces stand in the order in which they are first seen (`ordered_namespaces`). Sorting by
names permutes positions (`sortByName_perm`) and leaves routes with one name in their order
(`pairwise_sortByName`).
-/

namespace ApiRoutes

/-! ## Positions -/

theorem mem_positions {routes : List Route} {module : Option String} {i : Nat} :
    i ∈ RouteGroups.positions routes module ↔
      ∃ route, routes[i]? = some route ∧ route.namespaceName = module := by
  simp only [RouteGroups.positions, List.mem_filter, List.mem_range, decide_eq_true_eq,
    Option.map_eq_some_iff]
  constructor
  · rintro ⟨-, h⟩
    exact h
  · rintro ⟨route, hi, hmodule⟩
    exact ⟨(List.getElem?_eq_some_iff.mp hi).1, route, hi, hmodule⟩

namespace RouteGroups

variable {routes : List Route}

theorem pairwise_positions (routes : List Route) (module : Option String) :
    (positions routes module).Pairwise (· < ·) :=
  List.pairwise_lt_range.filter _

theorem nodup_positions (routes : List Route) (module : Option String) :
    (positions routes module).Nodup :=
  (pairwise_positions routes module).imp Nat.ne_of_lt

/-- One more route has the last position. -/
theorem mem_positions_concat {route : Route} {module : Option String} {i : Nat} :
    i ∈ positions (routes ++ [route]) module ↔
      i ∈ positions routes module ∨ i = routes.length ∧ route.namespaceName = module := by
  simp only [mem_positions]
  constructor
  · rintro ⟨r, hr, hmodule⟩
    rcases Nat.lt_or_ge i routes.length with hlt | hge
    · rw [List.getElem?_append_left hlt] at hr
      exact .inl ⟨r, hr, hmodule⟩
    · have hbound := (List.getElem?_eq_some_iff.mp hr).1
      rw [List.length_append, List.length_singleton] at hbound
      obtain rfl : i = routes.length := by omega
      rw [List.getElem?_concat_length] at hr
      cases hr
      exact .inr ⟨rfl, hmodule⟩
  · rintro (⟨r, hr, hmodule⟩ | ⟨rfl, hmodule⟩)
    · have hlt := (List.getElem?_eq_some_iff.mp hr).1
      exact ⟨r, by rw [List.getElem?_append_left hlt, hr], hmodule⟩
    · exact ⟨route, List.getElem?_concat_length, hmodule⟩

theorem mem_namespaces {name : String} :
    name ∈ namespaces routes ↔ ∃ i, i ∈ positions routes (some name) := by
  simp only [namespaces, Text.mem_distinct, List.mem_filterMap, mem_positions]
  constructor
  · rintro ⟨route, hmem, hname⟩
    obtain ⟨i, hi⟩ := List.mem_iff_getElem?.mp hmem
    exact ⟨i, route, hi, hname⟩
  · rintro ⟨i, route, hi, hname⟩
    exact ⟨route, List.mem_of_getElem? hi, hname⟩

theorem namespaces_concat (routes : List Route) (route : Route) :
    namespaces (routes ++ [route]) =
      match route.namespaceName with
      | none => namespaces routes
      | some name => Text.addNew (namespaces routes) name := by
  unfold namespaces Text.distinct
  rw [List.filterMap_append, List.foldl_append]
  cases hname : route.namespaceName with
  | none => rw [List.filterMap_cons_none hname]; rfl
  | some name => rw [List.filterMap_cons_some hname]; rfl

theorem positions_map {f : Route → Route}
    (hf : ∀ route, (f route).namespaceName = route.namespaceName) (routes : List Route)
    (module : Option String) : positions (routes.map f) module = positions routes module := by
  simp only [positions, List.length_map, List.getElem?_map, Option.map_map, Function.comp_def, hf]

theorem namespaces_map {f : Route → Route}
    (hf : ∀ route, (f route).namespaceName = route.namespaceName) (routes : List Route) :
    namespaces (routes.map f) = namespaces routes := by
  simp only [namespaces, List.filterMap_map, Function.comp_def, hf]

/-- Namespaces stand in the order of their first routes. -/
theorem ordered_namespaces (routes : List Route) :
    (namespaces routes).Pairwise fun first second =>
      ∃ i ∈ positions routes (some first), ∀ j ∈ positions routes (some second), i < j := by
  induction routes using List.reverseRecOn with
  | nil => exact List.Pairwise.nil
  | append_singleton routes route ih =>
      -- a route at the end is the first of no namespace that was seen before
      have hold : (namespaces routes).Pairwise fun first second =>
          ∃ i ∈ positions (routes ++ [route]) (some first),
            ∀ j ∈ positions (routes ++ [route]) (some second), i < j := by
        refine ih.imp ?_
        rintro first second ⟨i, hi, hlt⟩
        refine ⟨i, mem_positions_concat.mpr (.inl hi), fun j hj => ?_⟩
        rcases mem_positions_concat.mp hj with hj | ⟨rfl, -⟩
        · exact hlt j hj
        · obtain ⟨r, hr, -⟩ := mem_positions.mp hi
          exact (List.getElem?_eq_some_iff.mp hr).1
      rw [namespaces_concat]
      split
      · exact hold
      · rename_i name hname
        unfold Text.addNew
        split
        · exact hold
        · rename_i hnew
          refine List.pairwise_append.mpr ⟨hold, List.pairwise_singleton _ _, ?_⟩
          rintro first hfirst second hsecond
          obtain rfl := List.mem_singleton.mp hsecond
          obtain ⟨i, hi⟩ := mem_namespaces.mp hfirst
          refine ⟨i, mem_positions_concat.mpr (.inl hi), fun j hj => ?_⟩
          rcases mem_positions_concat.mp hj with hj | ⟨rfl, -⟩
          · exact absurd (mem_namespaces.mpr ⟨j, hj⟩) hnew
          · obtain ⟨r, hr, -⟩ := mem_positions.mp hi
            exact (List.getElem?_eq_some_iff.mp hr).1

/-! ## Sorting by names -/

/-- The name that the route at a position goes by. -/
def usageAt (routes : List Route) (i : Nat) : String :=
  (routes[i]?.map (·.routeName.usage)).getD ""

/-- A position stands before another one: its route's name is less, or the names are equal and the
position is. -/
def ByName (routes : List Route) (i j : Nat) : Prop :=
  usageAt routes i < usageAt routes j ∨ usageAt routes i = usageAt routes j ∧ i < j

theorem ByName.usageAt_le {i j : Nat} (h : ByName routes i j) :
    usageAt routes i ≤ usageAt routes j := by
  rcases h with hlt | ⟨heq, -⟩
  · exact le_of_lt hlt
  · exact le_of_eq heq

theorem insertByName_cons (index i : Nat) (rest : List Nat) :
    insertByName routes index (i :: rest) =
      if usageAt routes index < usageAt routes i then index :: i :: rest
      else i :: insertByName routes index rest :=
  rfl

theorem insertByName_perm (index : Nat) (sorted : List Nat) :
    (insertByName routes index sorted).Perm (index :: sorted) := by
  induction sorted with
  | nil => exact .refl _
  | cons i rest ih =>
      rw [insertByName_cons]
      split
      · exact .refl _
      · exact (ih.cons i).trans (.swap index i rest)

/-- A position that is greater than all others is put into its place. -/
theorem pairwise_insertByName {index : Nat} {sorted : List Nat}
    (hsorted : sorted.Pairwise (ByName routes)) (hgreatest : ∀ i ∈ sorted, i < index) :
    (insertByName routes index sorted).Pairwise (ByName routes) := by
  induction sorted with
  | nil => exact List.pairwise_singleton _ _
  | cons i rest ih =>
      obtain ⟨hfirst, hrest⟩ := List.pairwise_cons.mp hsorted
      rw [insertByName_cons]
      split
      · rename_i hlt
        refine List.pairwise_cons.mpr ⟨fun j hj => ?_, hsorted⟩
        rcases List.mem_cons.mp hj with rfl | hj
        · exact .inl hlt
        · exact .inl (lt_of_lt_of_le hlt (hfirst j hj).usageAt_le)
      · rename_i hnot
        have hbefore : ByName routes i index := by
          rcases lt_or_eq_of_le (not_lt.mp hnot) with hlt | heq
          · exact .inl hlt
          · exact .inr ⟨heq, hgreatest i List.mem_cons_self⟩
        refine List.pairwise_cons.mpr ⟨fun j hj => ?_,
          ih hrest fun j hj => hgreatest j (List.mem_cons_of_mem i hj)⟩
        rcases List.mem_cons.mp ((insertByName_perm index rest).mem_iff.mp hj) with rfl | hj
        · exact hbefore
        · exact hfirst j hj

theorem sortByName_concat (routes : List Route) (indices : List Nat) (index : Nat) :
    sortByName routes (indices ++ [index])
      = insertByName routes index (sortByName routes indices) := by
  unfold sortByName
  rw [List.foldl_append]
  rfl

theorem sortByName_perm (routes : List Route) (indices : List Nat) :
    (sortByName routes indices).Perm indices := by
  induction indices using List.reverseRecOn with
  | nil => exact .refl _
  | append_singleton indices index ih =>
      rw [sortByName_concat]
      exact (insertByName_perm index _).trans ((ih.cons index).trans
        (List.perm_append_singleton index indices).symm)

/-- Ascending positions are sorted by the names of their routes, and stay in order where the names
are equal. -/
theorem pairwise_sortByName {indices : List Nat} (h : indices.Pairwise (· < ·)) :
    (sortByName routes indices).Pairwise (ByName routes) := by
  induction indices using List.reverseRecOn with
  | nil => exact List.Pairwise.nil
  | append_singleton indices index ih =>
      obtain ⟨hindices, -, hlast⟩ := List.pairwise_append.mp h
      rw [sortByName_concat]
      -- the last position is greater than all that are sorted, and so goes behind equal names
      refine pairwise_insertByName (ih hindices) fun i hi => ?_
      exact hlast i ((sortByName_perm routes indices).mem_iff.mp hi) index
        (List.mem_singleton_self index)

end RouteGroups

end ApiRoutes
