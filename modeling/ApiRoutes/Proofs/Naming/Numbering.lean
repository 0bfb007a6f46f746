import ApiRoutes.Proofs.Route.Positions
import ApiRoutes.Proofs.Run.Trace
import ApiRoutes.Proofs.Text.CasedDigits

/-!
# Numbered route names

Routes are counted under the module and the name they ask for, and the count makes the repeats of a
name differ. Three facts lead from the counting to the names of a finished run.

- **Keys keep modules and names apart** (`countKey_injective`): the name of a module holds no bar
  and is not empty, so the text `module|name` is read in one way only, whatever the name holds.
- **The count of a key is its number of occurrences** (`Numbered`), an invariant of the run; with it
  the `k`th route of a module that asks for a name goes by the name's `k`th spelling.
- **Nothing is undone** (`restoreNames_of_numbered`): without dropped routes a numbered name still
  has the earlier routes that caused the number, and the grouping restores none.

So the name of every route in a run can be told from what the routes up to it asked for
(`exactlyNumbered_of_run`).

A spelling with a number lives among the names that other routes ask for. `usage_distinct_iff` says
exactly when two routes of a module end up with one name: when a spelling with a number is also a
spelling of another name.
-/

namespace ApiRoutes

open RouteNames (countKey numbered)

/-! ## Keys -/

/-- A module is named by a text without bar that is not empty; routes may also have no module. -/
def IsModuleName (module : Option String) : Prop :=
  ∀ name, module = some name → name ≠ "" ∧ '|' ∉ name.toList

theorem bar_not_mem_camelName (name : String) : '|' ∉ (camelName name).toList := by
  intro hbar
  simp only [camelName, Casings.of] at hbar
  exact absurd (Text.isWordChar_lowerCamelCase _ _ hbar) (by decide)

/-- Every module of an operation has such a name. -/
theorem isModuleName_namespaceOf (options : ModuleOptions) (path : String) (tags : List String) :
    IsModuleName (namespaceOf options path tags) := by
  intro name hname
  unfold namespaceOf at hname
  extract_lets name? at hname
  -- whichever of tag and path names the module, its name is in camel casing
  have hbar : ∀ camel, name? = some camel → '|' ∉ camel.toList := by
    intro camel hcamel
    simp only [name?] at hcamel
    split at hcamel
    · exact Option.some.inj hcamel ▸ bar_not_mem_camelName _
    · obtain ⟨segment, -, rfl⟩ := Option.map_eq_some_iff.mp hcamel
      exact bar_not_mem_camelName _
  clear_value name?
  split at hname
  · cases hname
  · rename_i camel
    split at hname
    · cases hname
    · rename_i c cs hcons
      have hne : camel ≠ "" := fun hempty => by simp [hempty] at hcons
      obtain rfl := Option.some.inj hname
      split
      · simp [hne, hbar camel rfl]
      · exact ⟨hne, hbar camel rfl⟩

theorem append_cons_inj {sep : Char} :
    ∀ {xs ys us vs : List Char}, sep ∉ xs → sep ∉ ys →
      xs ++ sep :: us = ys ++ sep :: vs → xs = ys ∧ us = vs
  | [], [], _, _, _, _, h => ⟨rfl, (List.cons.inj h).2⟩
  | [], y :: ys, _, _, _, hys, h => absurd ((List.cons.inj h).1 ▸ List.mem_cons_self) hys
  | x :: xs, [], _, _, hxs, _, h => absurd ((List.cons.inj h).1 ▸ List.mem_cons_self) hxs
  | x :: xs, y :: ys, _, _, hxs, hys, h => by
      obtain ⟨rfl, hrest⟩ := List.cons.inj h
      obtain ⟨rfl, rfl⟩ := append_cons_inj (List.not_mem_of_not_mem_cons hxs)
        (List.not_mem_of_not_mem_cons hys) hrest
      exact ⟨rfl, rfl⟩

/-- The key of a count is read in one way only. -/
theorem countKey_injective {module other : Option String} {name name' : String}
    (hmodule : IsModuleName module) (hother : IsModuleName other)
    (h : countKey module name = countKey other name') : module = other ∧ name = name' := by
  have hbar : ∀ {m : Option String}, IsModuleName m → '|' ∉ (m.getD "").toList := by
    intro m hm
    cases m with
    | none => simp
    | some s => exact (hm s rfl).2
  have hchars : (module.getD "").toList ++ '|' :: name.toList
      = (other.getD "").toList ++ '|' :: name'.toList := by
    simpa [countKey] using congrArg String.toList h
  obtain ⟨hm, hn⟩ := append_cons_inj (hbar hmodule) (hbar hother) hchars
  refine ⟨?_, String.toList_inj.mp hn⟩
  have hm := String.toList_inj.mp hm
  -- no module and a module with an empty name would share a key
  cases module with
  | none =>
      cases other with
      | none => rfl
      | some s => exact absurd hm.symm (hother s rfl).1
  | some m =>
      cases other with
      | none => exact absurd hm (hmodule m rfl).1
      | some s => exact congrArg some hm

/-! ## Counting -/

/-- What a route asked for: a name, in a module. -/
def Route.asked (route : Route) : Option String × String :=
  (route.namespaceName, route.routeName.base)

/-- The counts are those of the routes made so far, and each route goes by the spelling of its name
that its own count gives. -/
structure Numbered (routes : List Route) (names : RouteNames) : Prop where
  isModuleName : ∀ route ∈ routes, IsModuleName route.namespaceName
  count_eq : ∀ module name, IsModuleName module →
    names.count module name = (routes.map Route.asked).count (module, name)
  routeName_eq : ∀ i route, routes[i]? = some route → route.routeName =
    numbered route.routeName.base (((routes.take (i + 1)).map Route.asked).count route.asked)

theorem numbered_start : Numbered [] {} where
  isModuleName := fun _ hnil => nomatch hnil
  count_eq := fun _ _ _ => rfl
  routeName_eq := fun _ _ hnil => nomatch hnil

theorem numbered_base (name : String) (n : Nat) : (numbered name n).base = name := by
  unfold numbered
  split <;> rfl

/-- Giving out one more name counts it, and no other. -/
theorem count_resolve {names : RouteNames} {module other : Option String} {name name' : String}
    (hmodule : IsModuleName module) (hother : IsModuleName other) :
    (names.resolve module name).2.count other name'
      = names.count other name' + if (other, name') = (module, name) then 1 else 0 := by
  simp only [RouteNames.resolve, RouteNames.count]
  split
  · rename_i heq
    cases heq
    rw [Entries.find?_insert_self]
    rfl
  · rename_i hne
    rw [Entries.find?_insert_of_ne, Nat.add_zero]
    intro hkey
    obtain ⟨rfl, rfl⟩ := countKey_injective hother hmodule hkey
    exact hne rfl

/-- One more route that asked for a name and got the next spelling of it. -/
theorem Numbered.step {routes : List Route} {names : RouteNames} {route : Route}
    {module : Option String} {name : String} (h : Numbered routes names)
    (hmodule : IsModuleName module) (hnamespace : route.namespaceName = module)
    (hname : route.routeName = (names.resolve module name).1) :
    Numbered (routes ++ [route]) (names.resolve module name).2 := by
  have hbase : route.routeName.base = name := by
    rw [hname]
    exact numbered_base _ _
  have hasked : route.asked = (module, name) := by rw [Route.asked, hnamespace, hbase]
  refine ⟨?_, ?_, ?_⟩
  · intro r hr
    rw [List.mem_append, List.mem_singleton] at hr
    rcases hr with hold | rfl
    · exact h.isModuleName r hold
    · exact hnamespace ▸ hmodule
  · intro other name' hother
    rw [count_resolve hmodule hother, h.count_eq other name' hother, List.map_append,
      List.count_append, List.map_singleton, hasked, List.count_singleton]
    by_cases heq : (other, name') = (module, name)
    · rw [if_pos heq, if_pos (beq_iff_eq.mpr heq.symm)]
    · rw [if_neg heq, if_neg fun hbeq => heq (beq_iff_eq.mp hbeq).symm]
  · -- earlier routes were counted before this one, and are counted as before
    intro i r hr
    rcases Nat.lt_or_ge i routes.length with hlt | hge
    · rw [List.getElem?_append_left hlt] at hr
      rw [List.take_append_of_le_length hlt]
      exact h.routeName_eq i r hr
    · rw [List.getElem?_append_right hge] at hr
      obtain ⟨hzero, rfl⟩ : i - routes.length = 0 ∧ route = r := by
        cases hsub : i - routes.length with
        | zero => rw [hsub] at hr; exact ⟨rfl, Option.some.inj hr⟩
        | succ k => rw [hsub] at hr; cases hr
      have hcount : (names.resolve module name).1
          = numbered name (names.count module name + 1) := rfl
      rw [List.take_of_length_le (by simp; omega), List.map_append, List.count_append,
        List.map_singleton, List.count_singleton, hasked, hbase, hname, hcount,
        h.count_eq module name hmodule]
      simp

/-- The counting is right after any number of operations. -/
theorem numbered_advanceAll {a : Assembler} (hhooks : a.hooks = .none) {progress : Progress}
    {entries : List Document.Entry}
    (h : (Progress.start a).advanceAll a entries = .ok progress) :
    Numbered progress.routes progress.state.names := by
  refine Progress.advanceAll_induction (motive := fun _ m => Numbered m.routes m.state.names)
    numbered_start (fun _ hm hstep => ?_) h
  obtain ⟨base, args, -, -, hroutes, hstate⟩ := Progress.advance_plain hhooks hstep
  rw [hroutes, hstate]
  exact hm.step (isModuleName_namespaceOf _ _ _) rfl rfl

/-! ## No name is restored -/

/-- A route that goes by a numbered name has an earlier route of its module with its own name. -/
theorem Numbered.exists_earlier {routes : List Route} {names : RouteNames}
    (h : Numbered routes names) {i : Nat} {route : Route} (hi : routes[i]? = some route)
    (hne : route.routeName.usage ≠ route.routeName.base) :
    ∃ j < i, ∃ other, routes[j]? = some other ∧ other.asked = route.asked := by
  have hcount : ((routes.take (i + 1)).map Route.asked).count route.asked
      = ((routes.take i).map Route.asked).count route.asked + 1 := by
    rw [List.take_add_one, hi, List.map_append, List.count_append]
    simp
  have hpos : 0 < ((routes.take i).map Route.asked).count route.asked := by
    refine Nat.pos_of_ne_zero fun hzero => hne ?_
    rw [h.routeName_eq i route hi, hcount, hzero]
    rfl
  obtain ⟨other, hother, hasked⟩ := List.mem_map.mp (List.count_pos_iff.mp hpos)
  obtain ⟨j, hj⟩ := List.mem_iff_getElem?.mp hother
  have hlt : j < i := by
    have := (List.getElem?_eq_some_iff.mp hj).1
    simp only [List.length_take] at this
    omega
  rw [List.getElem?_take_of_lt hlt] at hj
  exact ⟨j, hlt, other, hj, hasked⟩

theorem Numbered.regainsName_eq_false {routes : List Route} {names : RouteNames}
    (h : Numbered routes names) {i : Nat} {route : Route} (hi : routes[i]? = some route) :
    RouteGroups.regainsName routes i route = false := by
  unfold RouteGroups.regainsName
  split
  · rfl
  · rename_i module hmodule
    by_cases heq : route.routeName.usage = route.routeName.base
    · simp [heq]
    · obtain ⟨j, hlt, other, hj, hasked⟩ := h.exists_earlier hi heq
      obtain ⟨hnamespace, hbase⟩ := Prod.mk.inj hasked
      have hmem : j ∈ (RouteGroups.positions routes (some module)).filter (· ≠ i) :=
        List.mem_filter.mpr ⟨mem_positions.mpr ⟨other, hj, hnamespace.trans hmodule⟩,
          by simp [Nat.ne_of_lt hlt]⟩
      have hshared : ((RouteGroups.positions routes (some module)).filter (· ≠ i)).any
          (fun k => routes[k]?.map (·.routeName.base) = some route.routeName.base) = true :=
        List.any_eq_true.mpr ⟨j, hmem, by simp [hj, hbase]⟩
      simp only [hshared, Bool.not_true, Bool.and_false]

/-- Grouping restores no name of routes that are counted right. -/
theorem restoreNames_of_numbered {routes : List Route} {names : RouteNames}
    (h : Numbered routes names) : RouteGroups.restoreNames routes = routes := by
  have hkept : ∀ pair ∈ routes.zipIdx,
      (if RouteGroups.regainsName routes pair.2 pair.1 then
        { pair.1 with routeName := { pair.1.routeName with usage := pair.1.routeName.base } }
      else pair.1) = pair.1 := by
    intro ⟨route, i⟩ hpair
    rw [h.regainsName_eq_false (List.mem_zipIdx_iff_getElem?.mp hpair)]
    rfl
  unfold RouteGroups.restoreNames
  rw [List.map_congr_left hkept, List.zipIdx_map_fst]

/-- With default hooks the routes of a finished run are those made of its operations. -/
theorem routes_finish {a : Assembler} (hhooks : a.hooks = .none) {progress : Progress}
    {entries : List Document.Entry}
    (h : (Progress.start a).advanceAll a entries = .ok progress) (doc : Document)
    (options : RouteOptions) : (progress.finish doc options).routes.routes = progress.routes :=
  restoreNames_of_numbered (numbered_advanceAll hhooks h)

/-- With default hooks the routes of a run are those made of its operations, as they were made. -/
theorem routes_of_run {doc : Document} {options : RouteOptions} {result : RunResult}
    (h : run doc options = .ok result) :
    ∃ template progress,
      Assembler.ofDocument doc options .none none = .ok (.plain doc options template)
      ∧ (Progress.start (.plain doc options template)).advanceAll (.plain doc options template)
        doc.operations = .ok progress
      ∧ result.routes.routes = progress.routes
      ∧ Numbered progress.routes progress.state.names := by
  obtain ⟨template, progress, ha, hprogress, rfl⟩ := run_ok h
  exact ⟨template, progress, ha, hprogress, routes_finish rfl hprogress doc options,
    numbered_advanceAll rfl hprogress⟩

/-! ## Spellings -/

/-- How a name is spelled the `k`th time it is given out. -/
def spelling (name : String) (k : Nat) : String := (numbered name k).usage

theorem spelling_one (name : String) : spelling name 1 = name := rfl

theorem spelling_of_two_le {name : String} {k : Nat} (hk : 2 ≤ k) :
    spelling name k = name ++ Nat.repr k := by
  have hgt : ¬ k ≤ 1 := by omega
  rw [spelling, numbered, if_neg hgt]

/-- The spellings of one name differ. -/
theorem spelling_injective {name : String} {k l : Nat} (hk : 1 ≤ k) (hl : 1 ≤ l)
    (h : spelling name k = spelling name l) : k = l := by
  have happend : ∀ {n : Nat}, name ≠ name ++ Nat.repr n := by
    intro n hself
    have hchars := congrArg String.toList hself
    rw [String.toList_append, List.self_eq_append_right] at hchars
    exact Nat.repr_ne_empty (String.toList_eq_nil_iff.mp hchars)
  rcases Nat.eq_or_lt_of_le hk with rfl | hk
  · rcases Nat.eq_or_lt_of_le hl with rfl | hl
    · rfl
    · rw [spelling_one, spelling_of_two_le hl] at h
      exact absurd h happend
  · rcases Nat.eq_or_lt_of_le hl with rfl | hl
    · rw [spelling_one, spelling_of_two_le hk] at h
      exact absurd h.symm happend
    · rw [spelling_of_two_le hk, spelling_of_two_le hl] at h
      have hchars := congrArg String.toList h
      simp only [String.toList_append] at hchars
      exact repr_injective (List.append_cancel_left hchars)

/-- What occurs in a list occurs for the `k`th time somewhere, for every `k` up to its count. -/
theorem exists_kth_occurrence {α : Type} [BEq α] [LawfulBEq α] {x : α} :
    ∀ {xs : List α} {k : Nat}, 1 ≤ k → k ≤ xs.count x →
      ∃ i, xs[i]? = some x ∧ (xs.take (i + 1)).count x = k
  | [], k, hk, hle => absurd (Nat.le_trans hk hle) (by simp)
  | y :: ys, k, hk, hle => by
      by_cases heq : y = x
      · subst heq
        rcases Nat.eq_or_lt_of_le hk with rfl | hk
        · exact ⟨0, rfl, by simp⟩
        · rw [List.count_cons_self] at hle
          have hrest : k - 1 ≤ ys.count y := by omega
          obtain ⟨i, hi, hcount⟩ := exists_kth_occurrence (Nat.le_sub_one_of_lt hk) hrest
          refine ⟨i + 1, hi, ?_⟩
          rw [List.take_succ_cons, List.count_cons_self, hcount]
          omega
      · rw [List.count_cons_of_ne heq] at hle
        obtain ⟨i, hi, hcount⟩ := exists_kth_occurrence hk hle
        refine ⟨i + 1, hi, ?_⟩
        rw [List.take_succ_cons, List.count_cons_of_ne heq, hcount]

/-! ## When two routes of a module share a name -/

/-- How often the routes of a module ask for a name. -/
def timesAsked (routes : List Route) (module : Option String) (name : String) : Nat :=
  (routes.map Route.asked).count (module, name)

/-- A module gives out a numbered spelling of a name that is also a spelling, plain or numbered, of
another name it gives out. -/
def SpellingsClash (routes : List Route) : Prop :=
  ∃ module name other k l, name ≠ other
    ∧ 2 ≤ k ∧ k ≤ timesAsked routes module name
    ∧ 1 ≤ l ∧ l ≤ timesAsked routes module other
    ∧ name ++ Nat.repr k = spelling other l

/-- No two routes of a module go by the same name. -/
def UsagesDistinct (routes : List Route) : Prop :=
  routes.Pairwise fun r s =>
    r.namespaceName = s.namespaceName → r.routeName.usage ≠ s.routeName.usage

variable {routes : List Route} {names : RouteNames}

theorem Numbered.usage_eq (h : Numbered routes names) {i : Nat} {route : Route}
    (hi : routes[i]? = some route) : route.routeName.usage
      = spelling route.routeName.base (((routes.take (i + 1)).map Route.asked).count route.asked) :=
  congrArg RouteName.usage (h.routeName_eq i route hi)

/-- The `k`th spelling of a name that is asked for at least `k` times is some route's name. -/
theorem Numbered.exists_usage (h : Numbered routes names) {module : Option String}
    {name : String} {k : Nat} (hk : 1 ≤ k) (hle : k ≤ timesAsked routes module name) :
    ∃ (i : Nat) (route : Route), routes[i]? = some route ∧ route.asked = (module, name)
      ∧ route.routeName.usage = spelling name k := by
  obtain ⟨i, hi, hcount⟩ := exists_kth_occurrence hk hle
  rw [List.getElem?_map] at hi
  obtain ⟨route, hroute, hasked⟩ := Option.map_eq_some_iff.mp hi
  refine ⟨i, route, hroute, hasked, ?_⟩
  rw [h.usage_eq hroute, hasked, List.map_take, hcount]
  exact congrArg (spelling · k) (Prod.mk.inj hasked).2

theorem one_le_count_take {i : Nat} {route : Route} (hi : routes[i]? = some route) :
    1 ≤ ((routes.take (i + 1)).map Route.asked).count route.asked := by
  have hmem : route ∈ routes.take (i + 1) :=
    List.mem_of_getElem? (i := i) (by rw [List.getElem?_take_of_succ, hi])
  exact List.count_pos_iff.mpr (List.mem_map_of_mem hmem)

/-- Every route spells its name with a number up to the times the name is asked for. -/
theorem Numbered.exists_spelling (h : Numbered routes names) {i : Nat} {route : Route}
    (hi : routes[i]? = some route) :
    ∃ k, 1 ≤ k ∧ k ≤ timesAsked routes route.namespaceName route.routeName.base
      ∧ route.routeName.usage = spelling route.routeName.base k := by
  refine ⟨_, one_le_count_take hi, ?_, h.usage_eq hi⟩
  rw [List.map_take]
  exact (List.take_sublist _ _).count_le _

/-- Later routes that ask for the same name have larger numbers. -/
theorem count_take_lt {i j : Nat} {route : Route} (hlt : i < j) (hj : routes[j]? = some route) :
    ((routes.take (i + 1)).map Route.asked).count route.asked
      < ((routes.take (j + 1)).map Route.asked).count route.asked := by
  have hle : ((routes.take (i + 1)).map Route.asked).count route.asked
      ≤ ((routes.take j).map Route.asked).count route.asked :=
    ((List.take_sublist_take_left hlt).map _).count_le _
  rw [List.take_add_one (i := j), hj, List.map_append, List.count_append]
  simpa using Nat.lt_succ_of_le hle

theorem usagesDistinct_iff_getElem? : UsagesDistinct routes ↔
    ∀ (i j : Nat) (r s : Route), i < j → routes[i]? = some r → routes[j]? = some s →
      r.namespaceName = s.namespaceName → r.routeName.usage ≠ s.routeName.usage := by
  rw [UsagesDistinct, List.pairwise_iff_getElem]
  constructor
  · intro h i j r s hlt hr hs
    obtain ⟨hi, rfl⟩ := List.getElem?_eq_some_iff.mp hr
    obtain ⟨hj, rfl⟩ := List.getElem?_eq_some_iff.mp hs
    exact h i j hi hj hlt
  · intro h i j hi hj hlt
    exact h i j _ _ hlt (List.getElem?_eq_getElem hi) (List.getElem?_eq_getElem hj)

theorem Numbered.not_spellingsClash (h : Numbered routes names)
    (hdistinct : UsagesDistinct routes) : ¬ SpellingsClash routes := by
  rintro ⟨module, name, other, k, l, hne, hk, hk', hl, hl', hclash⟩
  obtain ⟨i, r, hi, hasked, hr⟩ := h.exists_usage (by omega) hk'
  obtain ⟨j, s, hj, hasked', hs⟩ := h.exists_usage hl hl'
  obtain ⟨hmodule, hname⟩ := Prod.mk.inj hasked
  obtain ⟨hmodule', hother⟩ := Prod.mk.inj hasked'
  have hsame : r.routeName.usage = s.routeName.usage := by
    rw [hr, hs, spelling_of_two_le hk, hclash]
  have hnamespace : r.namespaceName = s.namespaceName := hmodule.trans hmodule'.symm
  rw [usagesDistinct_iff_getElem?] at hdistinct
  rcases Nat.lt_trichotomy i j with hlt | rfl | hgt
  · exact hdistinct i j r s hlt hi hj hnamespace hsame
  · obtain rfl := Option.some.inj (hi.symm.trans hj)
    exact hne (hname.symm.trans hother)
  · exact hdistinct j i s r hgt hj hi hnamespace.symm hsame.symm

theorem Numbered.usagesDistinct (h : Numbered routes names) (hclash : ¬ SpellingsClash routes) :
    UsagesDistinct routes := by
  rw [usagesDistinct_iff_getElem?]
  intro i j r s hlt hi hj hnamespace hsame
  by_cases hbase : r.routeName.base = s.routeName.base
  · -- one name: the later route has the larger number, and numbers can be read off
    have hasked : r.asked = s.asked := by rw [Route.asked, Route.asked, hnamespace, hbase]
    rw [h.usage_eq hi, h.usage_eq hj, hbase, hasked] at hsame
    have hfirst := hasked ▸ one_le_count_take hi
    exact absurd (spelling_injective hfirst (one_le_count_take hj) hsame)
      (Nat.ne_of_lt (count_take_lt hlt hj))
  · -- two names: one of the two is spelled with a number
    obtain ⟨k, hk, hk', hr⟩ := h.exists_spelling hi
    obtain ⟨l, hl, hl', hs⟩ := h.exists_spelling hj
    rw [hr, hs] at hsame
    rcases Nat.eq_or_lt_of_le hk with rfl | hk
    · rcases Nat.eq_or_lt_of_le hl with rfl | hl
      · exact hbase hsame
      · refine hclash ⟨_, _, _, l, 1, Ne.symm hbase, hl, hl', hk, hnamespace ▸ hk', ?_⟩
        rw [← spelling_of_two_le hl, hsame]
    · refine hclash ⟨_, _, _, k, l, hbase, hk, hk', hl, hnamespace ▸ hl', ?_⟩
      rw [← spelling_of_two_le hk, hsame]

/-- **Names within a module.** In a successful run with default hooks no two routes of a module go
by the same name exactly when no numbered spelling of a name is a spelling of another one. -/
theorem usage_distinct_iff {doc : Document} {options : RouteOptions} {result : RunResult}
    (h : run doc options = .ok result) :
    UsagesDistinct result.routes.routes ↔ ¬ SpellingsClash result.routes.routes := by
  obtain ⟨template, progress, -, -, hroutes, hnumbered⟩ := routes_of_run h
  rw [hroutes]
  exact ⟨hnumbered.not_spellingsClash, hnumbered.usagesDistinct⟩

/-- Three operations on users: one asks for `getUser2`, two ask for `getUser`. -/
def usersDocument : Document :=
  { openapi := "3.0.0"
    info := { title := "Users", version := "1" }
    paths := [("/users", { operations := [
      (.get, { operationId := some "getUser2" }),
      (.post, { operationId := some "getUser" }),
      (.put, { operationId := some "getUser" })] })] }

/-- The second `getUser` is spelled `getUser2`, and so is the first name. -/
theorem usage_not_distinct_users : ∃ result, run usersDocument {} = .ok result
    ∧ SpellingsClash result.routes.routes ∧ ¬ UsagesDistinct result.routes.routes := by
  obtain ⟨result, hrun, hasked⟩ := exists_ok_of_map
    (show (run usersDocument {}).toOption.map (fun result => result.routes.routes.map Route.asked)
      = some [(some "users", "getUser2"), (some "users", "getUser"), (some "users", "getUser")] by
      decide +kernel)
  have hclash : SpellingsClash result.routes.routes := by
    have htimes : timesAsked result.routes.routes (some "users") "getUser" = 2
        ∧ timesAsked result.routes.routes (some "users") "getUser2" = 1 := by
      rw [timesAsked, timesAsked, hasked]
      decide +kernel
    exact ⟨some "users", "getUser", "getUser2", 2, 1, by decide,
      Nat.le_refl 2, Nat.le_of_eq htimes.1.symm, Nat.le_refl 1, Nat.le_of_eq htimes.2.symm,
      by decide +kernel⟩
  exact ⟨result, hrun, hclash, fun hdistinct => (usage_distinct_iff hrun).mp hdistinct hclash⟩

/-! ## What each route goes by -/

/-- The `k`th route of a module that asks for a name goes by the name if `k` is one, and else by the
name with `k` after it, as a duplicate. -/
def ExactlyNumbered (routes : List Route) : Prop :=
  ∀ i route, routes[i]? = some route →
    let k := timesAsked (routes.take (i + 1)) route.namespaceName route.routeName.base
    1 ≤ k
      ∧ route.routeName.duplicate = decide (1 < k)
      ∧ route.routeName.usage
        = if k = 1 then route.routeName.base else route.routeName.base ++ Nat.repr k

theorem duplicate_numbered (name : String) (n : Nat) :
    (numbered name n).duplicate = decide (1 < n) := by
  unfold numbered
  split
  · rw [decide_eq_false (by omega)]
  · rw [decide_eq_true (by omega)]

theorem Numbered.exactlyNumbered (h : Numbered routes names) : ExactlyNumbered routes := by
  intro i route hi k
  have hk : 1 ≤ k := one_le_count_take hi
  refine ⟨hk, ?_, ?_⟩
  · exact (congrArg RouteName.duplicate (h.routeName_eq i route hi)).trans (duplicate_numbered _ k)
  · have husage : route.routeName.usage = spelling route.routeName.base k := h.usage_eq hi
    rw [husage]
    split
    · rename_i hone
      rw [hone, spelling_one]
    · exact spelling_of_two_le (by omega)

/-- **Route names.** In a successful run with default hooks each route goes by the name it asked for,
numbered by the routes of its module that asked for the name up to then. Grouping, which might give
routes their own names back, leaves all of them as they were made. -/
theorem exactlyNumbered_of_run {doc : Document} {options : RouteOptions} {result : RunResult}
    (h : run doc options = .ok result) :
    ExactlyNumbered result.routes.routes
      ∧ ∃ template progress,
        (Progress.start (.plain doc options template)).advanceAll (.plain doc options template)
          doc.operations = .ok progress
        ∧ result = progress.finish doc options
        ∧ (RouteGroups.group options.modules progress.routes).1 = progress.routes := by
  obtain ⟨template, progress, -, hprogress, rfl⟩ := run_ok h
  have hnumbered := numbered_advanceAll rfl hprogress
  refine ⟨?_, template, progress, hprogress, rfl, restoreNames_of_numbered hnumbered⟩
  rw [routes_finish rfl hprogress]
  exact hnumbered.exactlyNumbered

/-- Operations that all ask for `ping`, two of them in no module. -/
def pingDocument : Document :=
  { openapi := "3.0.0"
    info := { title := "Pings", version := "1" }
    paths := [
      ("/", { operations := [
        (.get, { operationId := some "ping" }), (.put, { operationId := some "ping" })] }),
      ("/a", { operations := [
        (.get, { operationId := some "ping" }), (.put, { operationId := some "ping" }),
        (.post, { operationId := some "ping" })] })] }

/-- With an alias that reads like the key of a count, routes in and out of the module `a` are still
counted apart. -/
theorem exactlyNumbered_pings : ∃ result,
    run pingDocument { aliases := [("ping", "a|ping")] } = .ok result
      ∧ ExactlyNumbered result.routes.routes
      ∧ result.routes.routes.map (fun route => (route.namespaceName, route.routeName.usage))
        = [(none, "a|ping"), (none, "a|ping2"), (some "a", "a|ping"), (some "a", "a|ping2"),
          (some "a", "a|ping3")] := by
  obtain ⟨result, hrun, hnames⟩ := exists_ok_of_map
    (show (run pingDocument { aliases := [("ping", "a|ping")] }).toOption.map (fun result =>
        result.routes.routes.map fun route => (route.namespaceName, route.routeName.usage))
      = some [(none, "a|ping"), (none, "a|ping2"), (some "a", "a|ping"), (some "a", "a|ping2"),
          (some "a", "a|ping3")] by decide +kernel)
  exact ⟨result, hrun, (exactlyNumbered_of_run hrun).1, hnames⟩

end ApiRoutes
