import ApiRoutes.Proofs.Text.CasedDigits
import ApiRoutes.Types.Registry
import Mathlib.Data.List.Nodup
import Mathlib.Data.List.Perm.Subperm

/-!
# New components have new names

A component takes the first of its candidate names whose type name is free, or else numbers the
first candidate until one is (`IsChosen`). Numbered names have different type names, because casing
keeps digits (`Resolver.typeName_numbered_injective`); so among one more of them than there are known
schemas one is free. The search for it needs no bound (`SearchEnds`), and the bound it has never stops
it (`exists_firstFreeNumbered`).

What is taken are the type names of the document's schemas and of all components created since
(`map_typeName_createAll`), whatever sequence of them there was.
-/

namespace ApiRoutes

/-- The number at the end of a component's name can be read off its type name. -/
theorem Resolver.typeName_numbered_injective (r : Resolver) {base : String} {k l : Nat}
    (h : r.typeName (base ++ Nat.repr k) = r.typeName (base ++ Nat.repr l)) : k = l := by
  have hdigits := congrArg (fun s => Text.digits s.toList) h
  simp only [typeName, Affixes.typeName, String.toList_append, Text.digits_append, digits_pascal,
    digits_repr] at hdigits
  exact repr_injective
    (List.append_cancel_left (List.append_cancel_left (List.append_cancel_right hdigits)))

/-! ## Searching for a number -/

/-- The search for a free number that tries one after the other, without a bound, and that starts at
`start`, stops at `found`. -/
inductive SearchEnds (free : Nat → Prop) : (start found : Nat) → Prop
  | here {n : Nat} (h : free n) : SearchEnds free n n
  | next {n k : Nat} (h : ¬ free n) (rest : SearchEnds free (n + 1) k) : SearchEnds free n k

/-- It stops at the least free number. -/
theorem SearchEnds.isLeast {free : Nat → Prop} {n k : Nat} (h : SearchEnds free n k) :
    IsLeast {j | n ≤ j ∧ free j} k := by
  induction h with
  | here hfree => exact ⟨⟨Nat.le_refl _, hfree⟩, fun _ hj => hj.1⟩
  | next htaken _ ih =>
      refine ⟨⟨Nat.le_of_succ_le ih.1.1, ih.1.2⟩, fun j hj => ih.2 ⟨?_, hj.2⟩⟩
      exact Nat.lt_of_le_of_ne hj.1 fun heq => htaken (heq ▸ hj.2)

/-- The rule for a component's name: the first candidate that is free, or else the first candidate
with the least number from 2 on that makes it free. Without candidates, `Component` gets the number. -/
inductive IsChosen (free : String → Prop) (candidates : List String) : String → Prop
  | candidate {before after : List String} {name : String}
      (h : candidates = before ++ name :: after) (htaken : ∀ c ∈ before, ¬ free c)
      (hfree : free name) : IsChosen free candidates name
  | numbered {k : Nat} (htaken : ∀ c ∈ candidates, ¬ free c)
      (hleast : IsLeast {j | 2 ≤ j ∧ free (candidates.head?.getD "Component" ++ Nat.repr j)} k) :
      IsChosen free candidates (candidates.head?.getD "Component" ++ Nat.repr k)

theorem IsChosen.free {free : String → Prop} {candidates : List String} {name : String}
    (h : IsChosen free candidates name) : free name := by
  cases h with
  | candidate _ _ hfree => exact hfree
  | numbered _ hleast => exact hleast.1.2

namespace Registry

variable (registry : Registry) (r : Resolver)

theorem isFree_iff {name : String} :
    registry.isFree r name = true ↔ r.typeName name ∉ registry.known.map (·.typeName) := by
  simp only [isFree, isTaken, Bool.not_eq_true', List.any_eq_false, decide_eq_true_eq,
    List.mem_map, not_exists, not_and]

/-- There are not enough known schemas to take more numbered names than there are of them. -/
theorem le_of_forall_taken {base : String} {n k : Nat}
    (h : ∀ j, n ≤ j → j < k → ¬ registry.isFree r (base ++ Nat.repr j) = true) :
    k ≤ n + registry.known.length := by
  let tried := (List.range (k - n)).map fun i => r.typeName (base ++ Nat.repr (n + i))
  have hnodup : tried.Nodup := by
    refine List.Nodup.map_on (fun i _ j _ heq => ?_) List.nodup_range
    exact Nat.add_left_cancel (r.typeName_numbered_injective heq)
  have htaken : tried ⊆ registry.known.map (·.typeName) := by
    intro name hname
    obtain ⟨i, hi, rfl⟩ := List.mem_map.mp hname
    rw [List.mem_range] at hi
    by_contra hfree
    exact h (n + i) (Nat.le_add_right n i) (by omega) ((isFree_iff registry r).mpr hfree)
  have hlength := (hnodup.subperm htaken).length_le
  simp only [tried, List.length_map, List.length_range] at hlength
  omega

/-- The bounded search stops where the unbounded one does, unless all names that it tries are
taken. -/
theorem firstFreeNumbered_cases (base : String) (n count : Nat) :
    (∃ k, registry.firstFreeNumbered r base n count = base ++ Nat.repr k
        ∧ SearchEnds (fun j => registry.isFree r (base ++ Nat.repr j) = true) n k)
      ∨ ∀ j, n ≤ j → j ≤ n + count → ¬ registry.isFree r (base ++ Nat.repr j) = true := by
  induction count generalizing n with
  | zero =>
      by_cases hfree : registry.isFree r (base ++ Nat.repr n) = true
      · exact .inl ⟨n, rfl, .here hfree⟩
      · refine .inr fun j hle hge => ?_
        obtain rfl := Nat.le_antisymm hge hle
        exact hfree
  | succ count ih =>
      unfold firstFreeNumbered
      split
      · rename_i hfree
        exact .inl ⟨n, rfl, .here hfree⟩
      · rename_i htaken
        rcases ih (n + 1) with ⟨k, heq, hends⟩ | hall
        · exact .inl ⟨k, heq, .next htaken hends⟩
        · refine .inr fun j hle hge => ?_
          rcases Nat.eq_or_lt_of_le hle with rfl | hlt
          · exact htaken
          · exact hall j hlt (by omega)

/-- The bound on the search never stops it. -/
theorem exists_firstFreeNumbered (base : String) (n : Nat) :
    ∃ k, registry.firstFreeNumbered r base n (registry.known.length + 1) = base ++ Nat.repr k
      ∧ SearchEnds (fun j => registry.isFree r (base ++ Nat.repr j) = true) n k := by
  refine (firstFreeNumbered_cases registry r base n _).resolve_right fun hall => ?_
  have hle := le_of_forall_taken registry r (k := n + registry.known.length + 2)
    fun j hle hlt => hall j hle (by omega)
  omega

/-- The name of a new component is chosen by the rule. -/
theorem isChosen_chooseName (candidates : List String) :
    IsChosen (fun name => registry.isFree r name = true) candidates
      (registry.chooseName r candidates) := by
  unfold chooseName
  split
  · rename_i name hname
    obtain ⟨hfree, before, after, heq, hbefore⟩ := List.find?_eq_some_iff_append.mp hname
    exact .candidate heq (fun c hc => by simpa using hbefore c hc) hfree
  · rename_i hnone
    obtain ⟨k, heq, hends⟩ :=
      exists_firstFreeNumbered registry r (candidates.head?.getD "Component") 2
    rw [heq]
    exact .numbered (List.find?_eq_none.mp hnone) hends.isLeast

/-- The type name of a new component is free. -/
theorem isFree_chooseName (candidates : List String) :
    registry.isFree r (registry.chooseName r candidates) = true :=
  (isChosen_chooseName registry r candidates).free

/-- The name of a new component is one of the candidates, or the first one with a number. -/
theorem chooseName_cases (candidates : List String) :
    registry.chooseName r candidates ∈ candidates
      ∨ ∃ k, 2 ≤ k ∧ registry.chooseName r candidates
        = candidates.head?.getD "Component" ++ Nat.repr k := by
  have h := isChosen_chooseName registry r candidates
  generalize registry.chooseName r candidates = name at h
  cases h with
  | candidate heq _ _ => exact .inl (heq ▸ List.mem_append_right _ List.mem_cons_self)
  | @numbered k _ hleast => exact .inr ⟨k, hleast.1.1, rfl⟩

end Registry

/-! ## Registries that calls lead to -/

/-- What a component is to be created from. -/
structure Creation where
  category : Section
  candidates : List String
  schema : OrRef Schema

namespace Registry

/-- The registry after components were created one after the other, starting from that of the
document. -/
def createAll (r : Resolver) (creations : List Creation) : Registry :=
  creations.foldl
    (fun registry c => (registry.create r c.category c.candidates c.schema).2) (ofResolver r)

/-- The type names of the document's schemas and of the components created since. -/
def typeNames (registry : Registry) (r : Resolver) : List String :=
  r.components.schemas.map (fun entry => r.typeName entry.1) ++ registry.created.map (·.typeName)

/-- The registry knows these names and no other. -/
theorem map_typeName_createAll (r : Resolver) (creations : List Creation) :
    (createAll r creations).known.map (·.typeName) = (createAll r creations).typeNames r := by
  induction creations using List.reverseRecOn with
  | nil =>
      show (r.components.schemas.map _).map _ = _ ++ []
      rw [List.map_map, List.append_nil]
      rfl
  | append_singleton creations c ih =>
      have hstep : createAll r (creations ++ [c])
          = ((createAll r creations).create r c.category c.candidates c.schema).2 := by
        rw [createAll, List.foldl_append]
        rfl
      rw [hstep, create, typeNames, List.map_append, List.map_append, ih, typeNames,
        List.append_assoc]
      rfl

/-- **Names of components.** Whatever components were created before, the search for a number ends,
at the latest with one more number than there are names; the new component's type name is neither
that of a schema of the document nor that of an earlier component; and it is the type name of the
candidate that the rule chooses. -/
theorem typeName_of_created (r : Resolver) (creations : List Creation) (c : Creation) :
    let registry := createAll r creations
    let taken := registry.typeNames r
    let made := (registry.create r c.category c.candidates c.schema).1
    (∃ k ≤ taken.length + 2, SearchEnds
        (fun j => r.typeName (c.candidates.head?.getD "Component" ++ Nat.repr j) ∉ taken) 2 k)
      ∧ made.typeName ∉ taken
      ∧ ∃ name, made.typeName = r.typeName name
        ∧ IsChosen (fun name => r.typeName name ∉ taken) c.candidates name := by
  intro registry taken made
  have hfree : ∀ name, registry.isFree r name = true ↔ r.typeName name ∉ taken := by
    intro name
    rw [isFree_iff, map_typeName_createAll]
  have hlength : registry.known.length = taken.length := by
    rw [← List.length_map, map_typeName_createAll]
  refine ⟨?_, (hfree _).mp (isFree_chooseName registry r c.candidates), _, rfl, ?_⟩
  · obtain ⟨k, -, hends⟩ :=
      exists_firstFreeNumbered registry r (c.candidates.head?.getD "Component") 2
    have hle : k ≤ 2 + registry.known.length := le_of_forall_taken registry r
      fun j hj hlt hjfree => Nat.not_le_of_lt hlt (hends.isLeast.2 ⟨hj, hjfree⟩)
    refine ⟨k, by omega, ?_⟩
    simpa only [hfree] using hends
  · simpa only [hfree] using isChosen_chooseName registry r c.candidates

end Registry

end ApiRoutes
