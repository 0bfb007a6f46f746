import ApiRoutes.Proofs.Naming.Numbering
import ApiRoutes.Proofs.Route.Grouping

/-!
# Restored names and the names of other routes

Grouping gives a route its own name back when no other route of the module asked for that name. It
does not ask whether another route goes by the name: a numbered spelling of a different name may be
spelled just so.

- **In general**, names that differ within each module still differ after the grouping exactly when no
  route regains a name that another route keeps (`usagesDistinct_group_iff`).
- **Routes that are dropped by name** never come to that. A name is only restored when the first route
  that got it is gone, and whatever dropped that route by its name dropped all that go by the name
  (`Numbered.not_regainsTaken_filter`).
-/

namespace ApiRoutes

open RouteGroups (RegainsName getElem?_restoreNames group regainsName_iff restored restoreNames)

variable {routes : List Route}

/-- A route regains a name that another route of its module goes by, and keeps. -/
def RegainsTaken (routes : List Route) : Prop :=
  ∃ i j route other, routes[i]? = some route ∧ RegainsName routes i route
    ∧ routes[j]? = some other ∧ j ≠ i ∧ other.namespaceName = route.namespaceName
    ∧ other.routeName.usage = route.routeName.base ∧ ¬ RegainsName routes j other

/-- Names differ within each module if they differ at any two positions. -/
theorem usagesDistinct_iff_of_ne : UsagesDistinct routes ↔
    ∀ (i j : Nat) (r s : Route), i ≠ j → routes[i]? = some r → routes[j]? = some s →
      r.namespaceName = s.namespaceName → r.routeName.usage ≠ s.routeName.usage := by
  rw [usagesDistinct_iff_getElem?]
  refine ⟨fun h i j r s hne hr hs hmodule => ?_, fun h i j r s hlt => h i j r s (Nat.ne_of_lt hlt)⟩
  rcases Nat.lt_or_gt_of_ne hne with hlt | hgt
  · exact h i j r s hlt hr hs hmodule
  · exact (h j i s r hgt hs hr hmodule.symm).symm

/-! ## Grouping -/

theorem namespaceName_restored (i : Nat) (route : Route) :
    (restored routes i route).namespaceName = route.namespaceName := by
  unfold restored
  split <;> rfl

theorem usage_restored (i : Nat) (route : Route) :
    RegainsName routes i route ∧ (restored routes i route).routeName.usage = route.routeName.base ∨
      ¬ RegainsName routes i route ∧
        (restored routes i route).routeName.usage = route.routeName.usage := by
  unfold restored
  split
  · rename_i h
    exact .inl ⟨regainsName_iff.mp h, rfl⟩
  · rename_i h
    exact .inr ⟨mt regainsName_iff.mpr h, rfl⟩

/-- The names after the grouping, by the routes before it. -/
theorem usagesDistinct_restoreNames_iff : UsagesDistinct (restoreNames routes) ↔
    ∀ (i j : Nat) (r s : Route), i ≠ j → routes[i]? = some r → routes[j]? = some s →
      r.namespaceName = s.namespaceName →
        (restored routes i r).routeName.usage ≠ (restored routes j s).routeName.usage := by
  rw [usagesDistinct_iff_of_ne]
  constructor
  · intro h i j r s hne hr hs hmodule
    refine h i j _ _ hne (by rw [getElem?_restoreNames, hr]; rfl)
      (by rw [getElem?_restoreNames, hs]; rfl) ?_
    rw [namespaceName_restored, namespaceName_restored, hmodule]
  · intro h i j r' s' hne hr hs hmodule
    rw [getElem?_restoreNames] at hr hs
    obtain ⟨r, hi, rfl⟩ := Option.map_eq_some_iff.mp hr
    obtain ⟨s, hj, rfl⟩ := Option.map_eq_some_iff.mp hs
    rw [namespaceName_restored, namespaceName_restored] at hmodule
    exact h i j r s hne hi hj hmodule

/-- **Names stay apart.** Let the names of the routes differ within each module. After the grouping
they still do exactly when no route regains a name that another route of its module keeps. -/
theorem usagesDistinct_group_iff (options : ModuleOptions) (h : UsagesDistinct routes) :
    UsagesDistinct (group options routes).1 ↔ ¬ RegainsTaken routes := by
  show UsagesDistinct (restoreNames routes) ↔ _
  rw [usagesDistinct_restoreNames_iff]
  constructor
  · rintro hafter ⟨i, j, route, other, hi, hregains, hj, hne, hmodule, husage, hkeeps⟩
    obtain ⟨-, hown⟩ := (usage_restored i route).resolve_right fun hnot => hnot.1 hregains
    obtain ⟨-, hkept⟩ := (usage_restored j other).resolve_left fun hnot => hkeeps hnot.1
    exact hafter j i other route hne hj hi hmodule (by rw [hown, hkept, husage])
  · intro hfree i j r s hne hi hj hmodule
    rcases usage_restored i r with ⟨hr, hrown⟩ | ⟨hr, hrkept⟩ <;>
      rcases usage_restored j s with ⟨hs, hsown⟩ | ⟨hs, hskept⟩
    · -- a name that two routes ask for is restored to neither
      rw [hrown, hsown]
      exact (hr.base_ne j s (Ne.symm hne) hj hmodule.symm).symm
    · rw [hrown, hskept]
      exact fun heq => hfree ⟨i, j, r, s, hi, hr, hj, Ne.symm hne, hmodule.symm, heq.symm, hs⟩
    · rw [hrkept, hsown]
      exact fun heq => hfree ⟨j, i, s, r, hj, hs, hi, hne, hmodule, heq, hr⟩
    · rw [hrkept, hskept]
      exact usagesDistinct_iff_of_ne.mp h i j r s hne hi hj hmodule

/-- Two routes that ask for `ping`, and the second of two that asked for `ping2`. -/
def pingRoutes : List Route :=
  let ping (base : String) (k : Nat) : Route :=
    { (default : Route) with
      namespaceName := some "pings", routeName := ⟨base, spelling base k, 2 ≤ k⟩ }
  [ping "ping" 1, ping "ping" 2, ping "ping2" 2]

/-- The names differ, and each is a spelling of what the route asked for. The third route regains a
name that the second one keeps. -/
theorem usages_not_distinct_pings :
    (∀ route ∈ pingRoutes, ∃ k, 1 ≤ k ∧ route.routeName.usage = spelling route.routeName.base k)
      ∧ pingRoutes.map (·.routeName.usage) = ["ping", "ping2", "ping22"]
      ∧ UsagesDistinct pingRoutes
      ∧ (group {} pingRoutes).1.map (·.routeName.usage) = ["ping", "ping2", "ping2"]
      ∧ ¬ UsagesDistinct (group {} pingRoutes).1 := by
  have hdistinct : UsagesDistinct pingRoutes := by
    unfold UsagesDistinct
    decide +kernel
  refine ⟨?_, by decide +kernel, hdistinct, by decide +kernel, fun hafter => ?_⟩
  · simp only [pingRoutes, List.forall_mem_cons]
    exact ⟨⟨1, by decide, rfl⟩, ⟨2, by decide, rfl⟩, ⟨2, by decide, rfl⟩, List.forall_mem_nil _⟩
  · refine (usagesDistinct_group_iff {} hdistinct).mp hafter
      ⟨2, 1, _, _, rfl, regainsName_iff.mp (by decide +kernel), rfl, by decide, rfl,
        by decide +kernel, mt regainsName_iff.mpr (by decide +kernel)⟩

/-! ## Routes dropped by name -/

/-- If routes that were numbered in order are dropped by their names alone, no route regains a name
that is taken: the first route that got the name was dropped, and so were all that go by it. -/
theorem Numbered.not_regainsTaken_filter {names : RouteNames} (h : Numbered routes names)
    (keep : String → Bool) :
    ¬ RegainsTaken (routes.filter fun route => keep route.routeName.usage) := by
  rintro ⟨i, j, route, other, hi, hregains, hj, -, -, husage, -⟩
  obtain ⟨hroute, -⟩ := List.mem_filter.mp (List.mem_of_getElem? hi)
  obtain ⟨-, hkept⟩ := List.mem_filter.mp (List.mem_of_getElem? hj)
  have hasked : 1 ≤ timesAsked routes route.namespaceName route.routeName.base :=
    List.count_pos_iff.mpr (List.mem_map_of_mem hroute)
  obtain ⟨k, first, hk, hsame, hfirst⟩ := h.exists_usage (Nat.le_refl 1) hasked
  obtain ⟨hmodule, hbase⟩ := Prod.mk.inj hsame
  rw [spelling_one] at hfirst
  -- the first route that got the name goes by it, as the other one does
  have hmem : first ∈ routes.filter fun route => keep route.routeName.usage :=
    List.mem_filter.mpr ⟨List.mem_of_getElem? hk, by rwa [hfirst, ← husage]⟩
  obtain ⟨l, hl⟩ := List.mem_iff_getElem?.mp hmem
  have hne : l ≠ i := by
    rintro rfl
    obtain rfl := Option.some.inj (hl.symm.trans hi)
    exact hregains.usage_ne hfirst
  exact hregains.base_ne l first hne hl hmodule hbase

end ApiRoutes
