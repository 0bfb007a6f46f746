import ApiRoutes.Document.Basic
import ApiRoutes.Proofs.Document.Chains
import Mathlib.Logic.Relation

/-!
# Where chains of references end

From a reference one can go on as long as the entry it names is a reference again (`LinksTo`). What
comes next is determined, so a chain comes to one thing only (`ComesTo.unique`): a value, a reference
that names no entry (`IsBroken`), or a reference that it has been at before.

`Walk` is the lookup without a bound: it remembers the references it has passed and stops at one of
them. The number of links that `follow` is ready to go along replaces that memory
(`walk_followLinks`): on a cycle it is used up, and a chain that comes to no reference twice has fewer
links. So every walk ends, with what `follow` answers, and the answer is what the chain comes to.
-/

namespace ApiRoutes

open Relation

variable {α : Type} {sectionName : String} {table : Entries (OrRef α)}

/-! ## Broken links -/

/-- A reference names no entry of the section, for the reason given. -/
inductive IsBroken (sectionName : String) (table : Entries (OrRef α)) (path : String) :
    ReferenceError → Prop
  | malformed (h : ∀ parts, splitReference path ≠ .ok parts) :
      IsBroken sectionName table path (.malformed path)
  | wrongSection {actual name : String} (h : splitReference path = .ok (actual, name))
      (hactual : actual ≠ sectionName) :
      IsBroken sectionName table path (.wrongSection sectionName actual path)
  | notFound {name : String} (h : splitReference path = .ok (sectionName, name))
      (hnone : table.find? name = none) : IsBroken sectionName table path (.notFound path)

theorem eq_malformed_of_splitReference {path : String} {e : ReferenceError}
    (h : splitReference path = .error e) : e = .malformed path := by
  unfold splitReference at h
  split at h
  · split at h <;> cases h
    rfl
  · split at h
    · split at h <;> cases h
      rfl
    · cases h
      rfl

theorem linked_eq_error_iff {path : String} {e : ReferenceError} :
    linked sectionName table path = .error e ↔ IsBroken sectionName table path e := by
  rw [linked_eq]
  constructor
  · intro h
    split at h
    · rename_i hsplit
      cases h
      obtain rfl := eq_malformed_of_splitReference hsplit
      exact .malformed fun parts hparts => nomatch hsplit.symm.trans hparts
    · rename_i actual name hsplit
      split at h
      · rename_i hsection
        split at h
        · cases h
        · rename_i hnone
          cases h
          exact .notFound (hsection ▸ hsplit) hnone
      · rename_i hsection
        cases h
        exact .wrongSection hsplit hsection
  · intro h
    cases h with
    | malformed h =>
        cases hsplit : splitReference path with
        | error e => rw [eq_malformed_of_splitReference hsplit]
        | ok parts => exact absurd hsplit (h parts)
    | wrongSection h hactual => simp only [h, if_neg hactual]
    | notFound h hnone => simp only [h, if_true, hnone]

/-- A broken link closes no cycle. -/
theorem IsBroken.ne_circular {path named : String} {e : ReferenceError}
    (h : IsBroken sectionName table path e) : e ≠ .circular named := by
  cases h <;> exact nofun

/-! ## Going on along a chain -/

/-- The entry that a reference names is another reference. -/
def LinksTo (sectionName : String) (table : Entries (OrRef α)) (path next : String) : Prop :=
  ∃ name, splitReference path = .ok (sectionName, name) ∧ table.find? name = some (.ref next)

theorem linksTo_iff {path next : String} :
    LinksTo sectionName table path next ↔ linked sectionName table path = .ok (.ref next) :=
  linked_eq_ok_iff.symm

theorem LinksTo.rightUnique : Relator.RightUnique (LinksTo sectionName table) := by
  intro path next other hnext hother
  have heq := (linksTo_iff.mp hnext).symm.trans (linksTo_iff.mp hother)
  cases heq
  rfl

/-- From a reference on a cycle the chain goes on, and stays on it. -/
theorem exists_next_of_cycle {path : String} (h : TransGen (LinksTo sectionName table) path path) :
    ∃ next, LinksTo sectionName table path next
      ∧ TransGen (LinksTo sectionName table) next next := by
  obtain ⟨next, hnext, hback⟩ := TransGen.head'_iff.mp h
  exact ⟨next, hnext, TransGen.tail' hback hnext⟩

theorem cycle_of_reaches {path last : String}
    (hcycle : TransGen (LinksTo sectionName table) path path)
    (h : ReflTransGen (LinksTo sectionName table) path last) :
    TransGen (LinksTo sectionName table) last last := by
  induction h with
  | refl => exact hcycle
  | tail _ hlink ih =>
      obtain ⟨next, hnext, hcycle⟩ := exists_next_of_cycle ih
      exact LinksTo.rightUnique hnext hlink ▸ hcycle

/-! ## What a chain comes to -/

/-- What the chain of a reference comes to: a value, a broken link, or a reference from which it
comes back there. -/
inductive ComesTo (sectionName : String) (table : Entries (OrRef α)) (start : String) :
    Except ReferenceError α → Prop
  | value {last name : String} {value : α}
      (h : ReflTransGen (LinksTo sectionName table) start last)
      (hsplit : splitReference last = .ok (sectionName, name))
      (hfind : table.find? name = some (.inline value)) : ComesTo sectionName table start (.ok value)
  | broken {last : String} {e : ReferenceError}
      (h : ReflTransGen (LinksTo sectionName table) start last)
      (hbroken : IsBroken sectionName table last e) : ComesTo sectionName table start (.error e)
  | cycle {path : String} (h : ReflTransGen (LinksTo sectionName table) start path)
      (hcycle : TransGen (LinksTo sectionName table) path path) :
      ComesTo sectionName table start (.error (.circular start))

/-- A chain either has an end, where the link is the answer, or it runs into a cycle. -/
theorem ComesTo.end_or_cycle {start : String} {outcome : Except ReferenceError α}
    (h : ComesTo sectionName table start outcome) :
    (∃ last, ReflTransGen (LinksTo sectionName table) start last
        ∧ linked sectionName table last = outcome.map .inline)
      ∨ outcome = .error (.circular start) ∧ ∃ path,
        ReflTransGen (LinksTo sectionName table) start path
          ∧ TransGen (LinksTo sectionName table) path path := by
  cases h with
  | value h hsplit hfind => exact .inl ⟨_, h, linked_of_find? hsplit hfind⟩
  | broken h hbroken => exact .inl ⟨_, h, linked_eq_error_iff.mpr hbroken⟩
  | cycle h hcycle => exact .inr ⟨rfl, _, h, hcycle⟩

theorem not_linksTo_of_answer {last next : String} {outcome : Except ReferenceError α}
    (h : linked sectionName table last = outcome.map .inline) :
    ¬ LinksTo sectionName table last next := by
  rw [linksTo_iff, h]
  cases outcome <;> exact nofun

/-- Whatever a chain comes to lies before its end. -/
theorem reaches_end {start last path : String} {outcome : Except ReferenceError α}
    (hanswer : linked sectionName table last = outcome.map .inline)
    (hlast : ReflTransGen (LinksTo sectionName table) start last)
    (hpath : ReflTransGen (LinksTo sectionName table) start path) :
    ReflTransGen (LinksTo sectionName table) path last := by
  rcases ReflTransGen.total_of_right_unique LinksTo.rightUnique hlast hpath with hbeyond | hbefore
  · rcases ReflTransGen.cases_head hbeyond with rfl | ⟨next, hnext, -⟩
    · exact .refl
    · exact absurd hnext (not_linksTo_of_answer hanswer)
  · exact hbefore

theorem end_not_beyond_cycle {start last path : String} {outcome : Except ReferenceError α}
    (hanswer : linked sectionName table last = outcome.map .inline)
    (hlast : ReflTransGen (LinksTo sectionName table) start last)
    (hpath : ReflTransGen (LinksTo sectionName table) start path) :
    ¬ TransGen (LinksTo sectionName table) path path := by
  intro hcycle
  have hback := cycle_of_reaches hcycle (reaches_end hanswer hlast hpath)
  obtain ⟨next, hnext, -⟩ := exists_next_of_cycle hback
  exact not_linksTo_of_answer hanswer hnext

/-- A chain comes to one thing only. -/
theorem ComesTo.unique {start : String} {outcome other : Except ReferenceError α}
    (h : ComesTo sectionName table start outcome) (h' : ComesTo sectionName table start other) :
    outcome = other := by
  rcases h.end_or_cycle with ⟨last, hlast, hanswer⟩ | ⟨rfl, path, hpath, hcycle⟩ <;>
    rcases h'.end_or_cycle with ⟨last', hlast', hanswer'⟩ | ⟨rfl, path', hpath', hcycle'⟩
  · obtain rfl : last = last' := by
      rcases ReflTransGen.cases_head (reaches_end hanswer hlast hlast') with rfl | ⟨next, hnext, -⟩
      · rfl
      · exact absurd hnext (not_linksTo_of_answer hanswer')
    have hsame := hanswer.symm.trans hanswer'
    cases outcome <;> cases other <;> cases hsame <;> rfl
  · exact absurd hcycle' (end_not_beyond_cycle hanswer hlast hpath')
  · exact absurd hcycle (end_not_beyond_cycle hanswer' hlast' hpath)
  · rfl

/-! ## The lookup without a bound -/

/-- Goes along the chain of `start`, from `path` on, and remembers the references it has passed: it
stops at an end of the chain, and with an error at a reference it has passed. -/
inductive Walk (sectionName : String) (table : Entries (OrRef α)) (start : String) :
    (passed : List String) → String → Except ReferenceError α → Prop
  | again {passed : List String} {path : String} (h : path ∈ passed) :
      Walk sectionName table start passed path (.error (.circular start))
  | value {passed : List String} {path name : String} {value : α} (h : path ∉ passed)
      (hsplit : splitReference path = .ok (sectionName, name))
      (hfind : table.find? name = some (.inline value)) :
      Walk sectionName table start passed path (.ok value)
  | broken {passed : List String} {path : String} {e : ReferenceError} (h : path ∉ passed)
      (hbroken : IsBroken sectionName table path e) :
      Walk sectionName table start passed path (.error e)
  | next {passed : List String} {path next : String} {outcome : Except ReferenceError α}
      (h : path ∉ passed) (hlink : LinksTo sectionName table path next)
      (rest : Walk sectionName table start (path :: passed) next outcome) :
      Walk sectionName table start passed path outcome

/-- A walk stops at what the chain comes to. -/
theorem Walk.comesTo {start path : String} {passed : List String}
    {outcome : Except ReferenceError α} (h : Walk sectionName table start passed path outcome)
    (hpassed : ∀ p ∈ passed, TransGen (LinksTo sectionName table) p path)
    (hstart : ReflTransGen (LinksTo sectionName table) start path) :
    ComesTo sectionName table start outcome := by
  induction h with
  | again h => exact .cycle hstart (hpassed _ h)
  | value _ hsplit hfind => exact .value hstart hsplit hfind
  | broken _ hbroken => exact .broken hstart hbroken
  | next _ hlink _ ih =>
      exact ih (List.forall_mem_cons.mpr ⟨.single hlink, fun p hp => (hpassed p hp).tail hlink⟩)
        (hstart.tail hlink)

/-- On a cycle any number of links is used up. -/
theorem followLinks_of_cycle {path : String}
    (h : TransGen (LinksTo sectionName table) path path) (start : String) (links : Nat) :
    followLinks sectionName table start links path = .error (.circular start) := by
  induction links generalizing path with
  | zero => rfl
  | succ links ih =>
      obtain ⟨next, hnext, hcycle⟩ := exists_next_of_cycle h
      rw [followLinks, linksTo_iff.mp hnext]
      exact ih hcycle

/-- References of a table that were passed once each are no more than the table has entries, the one
at the start apart. -/
theorem length_passed_le {start : String} {passed : List String} (hnodup : passed.Nodup)
    (hmem : ∀ p ∈ passed, p = start ∨ OrRef.ref p ∈ table.values) :
    passed.length ≤ table.length + 1 := by
  have hsubset : passed ⊆ start :: table.values.filterMap OrRef.path? := by
    intro p hp
    rcases hmem p hp with rfl | hvalue
    · exact List.mem_cons_self
    · exact List.mem_cons_of_mem _ (List.mem_filterMap.mpr ⟨_, hvalue, rfl⟩)
  calc passed.length
      ≤ (table.values.filterMap OrRef.path?).length + 1 := (hnodup.subperm hsubset).length_le
    _ ≤ table.values.length + 1 := Nat.succ_le_succ (List.length_filterMap_le _ _)
    _ = table.length + 1 := congrArg (· + 1) (List.length_map _)

/-- The number of links that are left does the work of the memory. -/
theorem walk_followLinks {start path : String} {passed : List String} {links : Nat}
    (hnodup : passed.Nodup)
    (hpassed : ∀ p ∈ passed, TransGen (LinksTo sectionName table) p path)
    (hmem : ∀ p ∈ path :: passed, p = start ∨ OrRef.ref p ∈ table.values)
    (hlinks : table.length + 2 ≤ links + passed.length) :
    Walk sectionName table start passed path (followLinks sectionName table start links path) := by
  induction links generalizing path passed with
  | zero =>
      have hle := length_passed_le hnodup fun p hp => hmem p (List.mem_cons_of_mem _ hp)
      omega
  | succ links ih =>
      by_cases hagain : path ∈ passed
      · rw [followLinks_of_cycle (hpassed path hagain)]
        exact .again hagain
      · rw [followLinks]
        split
        · rename_i hlinked
          exact .broken hagain (linked_eq_error_iff.mp hlinked)
        · rename_i hlinked
          obtain ⟨name, hsplit, hfind⟩ := linked_eq_ok_iff.mp hlinked
          exact .value hagain hsplit hfind
        · rename_i next hlinked
          have hlink := linksTo_iff.mpr hlinked
          refine .next hagain hlink (ih (List.nodup_cons.mpr ⟨hagain, hnodup⟩) ?_ ?_ ?_)
          · exact List.forall_mem_cons.mpr ⟨.single hlink, fun p hp => (hpassed p hp).tail hlink⟩
          · exact List.forall_mem_cons.mpr ⟨.inr (mem_values_of_linked hlinked), hmem⟩
          · rw [List.length_cons]
            omega

theorem walk_follow (sectionName : String) (table : Entries (OrRef α)) (path : String) :
    Walk sectionName table path [] path (follow sectionName table path) :=
  walk_followLinks List.nodup_nil (List.forall_mem_nil _)
    (List.forall_mem_singleton.mpr (.inl rfl)) (Nat.le_refl _)

theorem follow_eq_iff_comesTo {path : String} {outcome : Except ReferenceError α} :
    follow sectionName table path = outcome ↔ ComesTo sectionName table path outcome := by
  have hfollow : ComesTo sectionName table path (follow sectionName table path) :=
    (walk_follow sectionName table path).comesTo (List.forall_mem_nil _) .refl
  exact ⟨fun h => h ▸ hfollow, hfollow.unique⟩

theorem follow_eq_iff_walk {path : String} {outcome : Except ReferenceError α} :
    follow sectionName table path = outcome ↔ Walk sectionName table path [] path outcome :=
  ⟨fun h => h ▸ walk_follow sectionName table path,
    fun h => follow_eq_iff_comesTo.mpr (h.comesTo (List.forall_mem_nil _) .refl)⟩

/-! ## The sections of a document -/

/-- A lookup answers for every reference what its chain comes to. -/
structure FollowsChains (sectionName : String) (table : Entries (OrRef α))
    (lookup : String → Except ReferenceError α) : Prop where
  /-- The walk along the chain ends, and in no other way. -/
  walk : ∀ path outcome,
    lookup path = outcome ↔ Walk sectionName table path [] path outcome
  value : ∀ path value, lookup path = .ok value ↔
    ∃ last name, ReflTransGen (LinksTo sectionName table) path last
      ∧ splitReference last = .ok (sectionName, name) ∧ table.find? name = some (.inline value)
  circular : ∀ path named, lookup path = .error (.circular named) ↔
    named = path ∧ ∃ back, ReflTransGen (LinksTo sectionName table) path back
      ∧ TransGen (LinksTo sectionName table) back back
  broken : ∀ path e, (∀ named, e ≠ .circular named) → (lookup path = .error e ↔
    ∃ last, ReflTransGen (LinksTo sectionName table) path last
      ∧ IsBroken sectionName table last e)

theorem followsChains_follow (sectionName : String) (table : Entries (OrRef α)) :
    FollowsChains sectionName table (follow sectionName table) where
  walk := fun path outcome => follow_eq_iff_walk
  value := by
    intro path value
    rw [follow_eq_iff_comesTo]
    constructor
    · intro h
      cases h with
      | value h hsplit hfind => exact ⟨_, _, h, hsplit, hfind⟩
    · rintro ⟨last, name, h, hsplit, hfind⟩
      exact .value h hsplit hfind
  circular := by
    intro path named
    rw [follow_eq_iff_comesTo]
    constructor
    · intro h
      cases h with
      | broken _ hbroken => exact absurd rfl hbroken.ne_circular
      | cycle h hcycle => exact ⟨rfl, _, h, hcycle⟩
    · rintro ⟨rfl, back, h, hcycle⟩
      exact .cycle h hcycle
  broken := by
    intro path e hne
    rw [follow_eq_iff_comesTo]
    constructor
    · intro h
      cases h with
      | broken h hbroken => exact ⟨_, h, hbroken⟩
      | cycle => exact absurd rfl (hne _)
    · rintro ⟨last, h, hbroken⟩
      exact .broken h hbroken

/-- **Chains of references.** In each of the five sections, whatever the components are, the lookup of
every reference ends: with a value exactly if the chain comes to that value in finitely many links,
with the reference it began at as circular exactly if the chain comes back to a reference, and with
the error of the first broken link otherwise. -/
theorem followsChains_components (components : Components) :
    FollowsChains "schemas" components.schemas components.schemaAt
      ∧ FollowsChains "parameters" components.parameters components.parameterAt
      ∧ FollowsChains "requestBodies" components.requestBodies components.requestBodyAt
      ∧ FollowsChains "responses" components.responses components.responseAt
      ∧ FollowsChains "headers" components.headers components.headerAt :=
  ⟨followsChains_follow _ _, followsChains_follow _ _, followsChains_follow _ _,
    followsChains_follow _ _, followsChains_follow _ _⟩

/-- A cycle that is entered from outside is reported by the reference from outside. -/
example : follow "headers"
    [("Limit", OrRef.ref "#/components/headers/Rate"), ("Rate", .ref "#/components/headers/Rate"),
      ("Quota", .inline 5)] "#/components/headers/Limit"
      = .error (.circular "#/components/headers/Limit") := by
  rfl

end ApiRoutes
