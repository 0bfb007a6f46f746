import ApiRoutes.Proofs.Document.ReferenceRoots
import ApiRoutes.Proofs.Text.NameLike
import ApiRoutes.Proofs.Text.Splitting

/-!
# The type name of a reference

A reference gets a type name in two ways. Where it is resolved, the name of the component it names is
cased, which is all that follows the section. Where it is rendered, its last segment is cased. Older
roots take names without slashes only, so there both are the same. Below `#/components/` a name may
hold slashes, and both are the same exactly if the casing takes nothing from before the last one
(`CasedByLastSegment`).
-/

namespace ApiRoutes

open Text

/-! ## The name in a reference -/

theorem of_splitOlder? {path sectionName : String} {name : List Char} :
    ∀ {roots : List (String × String)}, splitOlder? path roots = some (sectionName, name) →
      ∃ root ∈ roots, root.2 = sectionName ∧ path.toList = root.1.toList ++ name
  | (root, s) :: roots, h => by
      rw [splitOlder?] at h
      split at h
      · rename_i hdrop
        cases h
        exact ⟨(root, sectionName), List.mem_cons_self, rfl, dropStart?_eq_some_iff.mp hdrop⟩
      · obtain ⟨found, hfound, hrest⟩ := of_splitOlder? h
        exact ⟨found, List.mem_cons_of_mem _ hfound, hrest⟩

/-- A reference is split behind an older root, where no slash may follow, or at the first slash below
`#/components/`. -/
theorem splitReference_cases {path sectionName name : String}
    (h : splitReference path = .ok (sectionName, name)) :
    (∃ root ∈ olderRoots, path = root.1 ++ name ∧ '/' ∉ name.toList)
      ∨ path = "#/components/" ++ sectionName ++ "/" ++ name := by
  unfold splitReference at h
  split at h
  · rename_i chars holder
    split at h
    · cases h
    · rename_i hgood
      cases h
      obtain ⟨root, hroot, -, hpath⟩ := of_splitOlder? holder
      refine .inl ⟨root, hroot, ?_, ?_⟩
      · rw [← String.toList_inj, hpath, String.toList_append, String.toList_ofList]
      · rw [String.toList_ofList]
        simp at hgood
        exact hgood.2
  · split at h
    · rename_i hcut
      split at h
      · cases h
      · cases h
        obtain ⟨rest, hdrop, hcut⟩ := Option.bind_eq_some_iff.mp hcut
        refine .inr ?_
        rw [← String.toList_inj, dropStart?_eq_some_iff.mp hdrop, eq_of_cut?_eq_some hcut]
        simp
    · cases h

/-- After an older root the name has no slash. -/
theorem slash_not_mem_of_older {path sectionName name : String}
    (h : splitReference path = .ok (sectionName, name)) {root : String × String}
    (hroot : root ∈ olderRoots) (holder : root.1.toList <+: path.toList) : '/' ∉ name.toList := by
  rcases splitReference_cases h with ⟨-, -, -, hslash⟩ | hpath
  · exact hslash
  · obtain ⟨rest, hrest⟩ := holder
    rw [hpath] at hrest
    simp only [olderRoots, List.mem_cons, List.not_mem_nil, or_false] at hroot
    rcases hroot with rfl | rfl | rfl <;> simp at hrest

/-- A reference ends in its name. -/
theorem exists_of_splitReference {path sectionName name : String}
    (h : splitReference path = .ok (sectionName, name)) : ∃ root, path = root ++ "/" ++ name := by
  rcases splitReference_cases h with ⟨root, hroot, hpath, -⟩ | hpath
  · simp only [olderRoots, List.mem_cons, List.not_mem_nil, or_false] at hroot
    rcases hroot with rfl | rfl | rfl
    · exact ⟨"#/definitions", hpath⟩
    · exact ⟨"#/parameters", hpath⟩
    · exact ⟨"#/responses", hpath⟩
  · exact ⟨_, hpath⟩

/-- A name with a slash has a last one. -/
theorem exists_last_slash {name : String} (h : '/' ∈ name.toList) :
    ∃ before last, name = before ++ "/" ++ last ∧ '/' ∉ last.toList := by
  obtain ⟨last, before, hsplit, hlast⟩ := List.eq_append_cons_of_mem (List.mem_reverse.mpr h)
  refine ⟨String.ofList before.reverse, String.ofList last.reverse, ?_, by simpa using hlast⟩
  rw [← String.toList_inj, ← List.reverse_reverse name.toList, hsplit]
  simp

theorem lastSegment_of_splitReference {path sectionName name before last : String}
    (h : splitReference path = .ok (sectionName, name)) (hname : name = before ++ "/" ++ last)
    (hlast : '/' ∉ last.toList) : lastSegment path = last := by
  obtain ⟨root, hpath⟩ := exists_of_splitReference h
  have hwhole : path = (root ++ "/" ++ before) ++ "/" ++ last := by
    rw [hpath, hname]
    simp only [String.append_assoc]
  rw [hwhole]
  exact lastSegment_of_slash hlast _

/-! ## Casing a name and its last segment -/

/-- The Pascal casing of a name takes nothing from before its last slash: there is no letter or digit
there; or there is none behind it, and the rest is cased as a name without any. -/
def CasedByLastSegment (name : String) : Prop :=
  ∀ before last, name = before ++ "/" ++ last → '/' ∉ last.toList →
    IsWordless before ∨ IsWordless last ∧ (Casings.of before).pascal = "Unnamed"

/-- A text has one last slash. -/
theorem append_slash_inj {before last before' last' : String} (hlast : '/' ∉ last.toList)
    (hlast' : '/' ∉ last'.toList) (h : before ++ "/" ++ last = before' ++ "/" ++ last') :
    before = before' ∧ last = last' := by
  have hsame : last = last' := by
    rw [← lastSegment_of_slash hlast before, h, lastSegment_of_slash hlast']
  subst hsame
  exact ⟨by simpa using h, rfl⟩

theorem casedByLastSegment_iff {before last : String} (hlast : '/' ∉ last.toList) :
    CasedByLastSegment (before ++ "/" ++ last) ↔
      IsWordless before ∨ IsWordless last ∧ (Casings.of before).pascal = "Unnamed" := by
  refine ⟨fun h => h before last rfl hlast, fun h before' last' hname hlast' => ?_⟩
  obtain ⟨rfl, rfl⟩ := append_slash_inj hlast hlast' hname
  exact h

theorem casedByLastSegment_of_slash {name : String} (h : '/' ∉ name.toList) :
    CasedByLastSegment name := by
  rintro before last rfl -
  exact absurd (by simp) h

theorem pascal_of_wordless {name : String} (h : IsWordless name) :
    (Casings.of name).pascal = "Unnamed" := by
  have hunnamed : pascalCase "unnamed" = "Unnamed" := by decide +kernel
  exact (congrArg pascalCase (identifierWords_of_wordless h)).trans hunnamed

theorem pascal_ne_empty (name : String) : (Casings.of name).pascal ≠ "" := by
  obtain ⟨-, c, hc, -⟩ := isNameLike_iff.mp (isNameLike_pascal name)
  intro hempty
  rw [hempty] at hc
  exact nomatch hc

theorem pascal_eq_last_iff (before last : String) :
    (Casings.of (before ++ "/" ++ last)).pascal = (Casings.of last).pascal ↔
      IsWordless before ∨ IsWordless last ∧ (Casings.of before).pascal = "Unnamed" := by
  have hslash : isAlphanumeric '/' = false := by decide
  have hname : (before ++ "/" ++ last).toList = before.toList ++ '/' :: last.toList := by simp
  by_cases hbefore : IsWordless before
  · exact iff_of_true (pascal_of_wordless_before hslash hname hbefore) (.inl hbefore)
  · by_cases hlast : IsWordless last
    · rw [pascal_of_wordless_last hslash hname hlast, pascal_of_wordless hlast]
      simp [hbefore, hlast]
    · rw [pascal_append hslash hname hbefore hlast]
      simp [hbefore, hlast, pascal_ne_empty]

namespace Resolver

theorem typeName_eq_iff (r : Resolver) {name other : String} :
    r.typeName name = r.typeName other ↔ (Casings.of name).pascal = (Casings.of other).pascal := by
  simp [typeName, Affixes.typeName]

/-- **One type name.** A reference that resolves has the type name it is rendered as exactly if its
name is cased by its last segment. With an older root this is always so. -/
theorem typeName_eq_typeExpr_iff {r : Resolver} {path : String} {resolved : Resolved}
    (h : r.resolve? path = some resolved) :
    (resolved.typeName = r.typeExpr (.ref path) ↔ CasedByLastSegment resolved.name)
      ∧ ∀ root ∈ olderRoots, root.1.toList <+: path.toList →
        resolved.typeName = r.typeExpr (.ref path) := by
  obtain ⟨⟨sectionName, hsplit⟩, htypeName⟩ := split_of_resolve? h
  have hrendered : r.typeExpr (.ref path) = r.typeName (lastSegment path) := rfl
  have hwithout : '/' ∉ resolved.name.toList → lastSegment path = resolved.name := by
    intro hslash
    obtain ⟨root, hpath⟩ := exists_of_splitReference hsplit
    rw [hpath, lastSegment_of_slash hslash]
  constructor
  · rw [htypeName, hrendered, typeName_eq_iff]
    by_cases hslash : '/' ∈ resolved.name.toList
    · obtain ⟨before, last, hname, hlast⟩ := exists_last_slash hslash
      rw [lastSegment_of_splitReference hsplit hname hlast, hname, pascal_eq_last_iff,
        casedByLastSegment_iff hlast]
    · rw [hwithout hslash]
      exact iff_of_true rfl (casedByLastSegment_of_slash hslash)
  · intro root hroot holder
    have hslash := slash_not_mem_of_older hsplit hroot holder
    rw [htypeName, hrendered, hwithout hslash]

end Resolver

/-- A document with two schemas for dogs, the name of one of which has a slash. -/
def kennelDocument : Document :=
  { openapi := "3.0.0"
    info := { title := "Kennel", version := "1" }
    components := some
      { schemas := [("Dog", .inline .string),
          ("pets/Dog", .inline (.object [("name", .inline .string)] ["name"]))] } }

/-- The schema with the slash resolves to a type name of its own and is rendered as the other one. -/
theorem typeName_ne_typeExpr_dog : ∃ slashed older,
    (Resolver.ofDocument kennelDocument {}).resolve? "#/components/schemas/pets/Dog" = some slashed
      ∧ slashed.typeName = "PetsDog"
      ∧ (Resolver.ofDocument kennelDocument {}).typeExpr (.ref "#/components/schemas/pets/Dog") = "Dog"
      ∧ ¬ CasedByLastSegment slashed.name
      ∧ (Resolver.ofDocument kennelDocument {}).resolve? "#/definitions/Dog" = some older
      ∧ older.typeName = (Resolver.ofDocument kennelDocument {}).typeExpr (.ref "#/definitions/Dog") := by
  have hslashed : (Resolver.ofDocument kennelDocument {}).resolve? "#/components/schemas/pets/Dog"
      = some ⟨"pets/Dog", (Resolver.ofDocument kennelDocument {}).typeName "pets/Dog", .schemas,
        .schema (.inline (.object [("name", .inline .string)] ["name"]))⟩ := rfl
  have holder : (Resolver.ofDocument kennelDocument {}).resolve? "#/definitions/Dog"
      = some ⟨"Dog", (Resolver.ofDocument kennelDocument {}).typeName "Dog", .schemas,
        .schema (.inline .string)⟩ := rfl
  have htypeName : (Resolver.ofDocument kennelDocument {}).typeName "pets/Dog" = "PetsDog" := by
    decide +kernel
  have htypeExpr : (Resolver.ofDocument kennelDocument {}).typeExpr
      (.ref "#/components/schemas/pets/Dog") = "Dog" := by
    decide +kernel
  refine ⟨_, _, hslashed, htypeName, htypeExpr, fun hcased => ?_, holder, ?_⟩
  · have hsame := (Resolver.typeName_eq_typeExpr_iff hslashed).1.mpr hcased
    exact absurd (htypeName.symm.trans (hsame.trans htypeExpr)) (by decide)
  · exact (Resolver.typeName_eq_typeExpr_iff holder).2 ("#/definitions/", "schemas") (by decide)
      (by decide)

end ApiRoutes
