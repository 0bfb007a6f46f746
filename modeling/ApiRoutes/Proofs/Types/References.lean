import ApiRoutes.Proofs.Types.Freshness
import ApiRoutes.Proofs.Types.Growth

/-!
# References to named schemas

A schema that has a name is referred to by its path, and a reference is rendered as the type name
made from the last segment of the path. For the reference to be rendered as the type name of the
schema, the name of the schema must have no slash (`NamedSchema.IsStandard.typeExpr_ref`).

If the document's schemas have names without slashes and different type names, then so have all
schemas of every registry that a run comes to: the names of components are cased, their suffixes are
the user's, and a component takes a name only if its type name is free. `Registry.Sound` lists what
follows, and `Registry.Hoists.sound` is the invariant.
-/

namespace ApiRoutes

/-! ## Rendering references -/

theorem lastSegment_append {before name : List Char} (h : '/' ∉ name) :
    lastSegment (String.ofList (before ++ '/' :: name)) = String.ofList name := by
  have hkept : ∀ c ∈ name.reverse, decide (c ≠ '/') = true := by
    intro c hc
    have hne : c ≠ '/' := fun heq => h (heq ▸ List.mem_reverse.mp hc)
    exact decide_eq_true hne
  rw [lastSegment, String.toList_ofList, List.reverse_append, List.reverse_cons, List.append_assoc,
    List.takeWhile_append_of_pos hkept]
  simp

/-- A reference to a standard schema is rendered as its type name, if its name has no slash. -/
theorem NamedSchema.IsStandard.typeExpr_ref {r : Resolver} {schema : NamedSchema}
    (h : schema.IsStandard r) (hslash : '/' ∉ schema.name.toList) :
    r.typeExpr (.ref schema.path) = schema.typeName := by
  have hpath : schema.path
      = String.ofList ("#/components/schemas".toList ++ '/' :: schema.name.toList) := by
    rw [h.path_eq, ← String.toList_inj]
    simp
  have hlast : lastSegment schema.path = schema.name := by
    rw [hpath, lastSegment_append hslash, String.ofList_toList]
  show r.typeName (lastSegment schema.path) = schema.typeName
  rw [hlast, h.typeName_eq]

/-- Named schemas as a registry holds them, with names that a reference can hold. -/
def AreReferable (r : Resolver) (known : List NamedSchema) : Prop :=
  ∀ schema ∈ known, schema.IsStandard r ∧ '/' ∉ schema.name.toList

theorem AreReferable.append {r : Resolver} {known more : List NamedSchema}
    (h : AreReferable r known) (h' : AreReferable r more) : AreReferable r (known ++ more) :=
  List.forall_mem_append.mpr ⟨h, h'⟩

/-! ## Names of components -/

theorem slash_not_mem_of_isWordChar {cs : List Char} (h : ∀ c ∈ cs, Text.isWordChar c = true) :
    '/' ∉ cs :=
  fun hmem => absurd (h _ hmem) (by decide)

/-- The suffixes of component names have no slash. -/
def ExtractOptions.SuffixesReferable (options : ExtractOptions) : Prop :=
  ∀ suffixes ∈ options.suffixLists, ∀ suffix ∈ suffixes, '/' ∉ suffix.toList

theorem slash_not_mem_componentNames {usage : String} {suffixes : List String}
    (h : ∀ suffix ∈ suffixes, '/' ∉ suffix.toList) :
    ∀ name ∈ componentNames usage suffixes, '/' ∉ name.toList := by
  intro name hname
  obtain ⟨suffix, hsuffix, rfl⟩ := List.mem_map.mp hname
  rw [String.toList_append, List.mem_append, not_or]
  exact ⟨slash_not_mem_of_isWordChar (Text.isWordChar_pascalCase usage), h suffix hsuffix⟩

namespace Registry

variable {r : Resolver} {registry later : Registry} {options : ExtractOptions}

/-- A number in a name is no slash either. -/
theorem slash_not_mem_chooseName {candidates : List String}
    (h : ∀ name ∈ candidates, '/' ∉ name.toList) :
    '/' ∉ (registry.chooseName r candidates).toList := by
  rcases chooseName_cases registry r candidates with hcandidate | ⟨k, -, hnumbered⟩
  · exact h _ hcandidate
  · have hhead : '/' ∉ (candidates.head?.getD "Component").toList := by
      cases candidates with
      | nil => decide
      | cons name rest => exact h name List.mem_cons_self
    have hnumber : '/' ∉ (Nat.repr k).toList := by
      rw [← digits_repr]
      exact fun hmem => absurd (List.mem_filter.mp hmem).2 (by decide)
    rw [hnumbered, String.toList_append, List.mem_append, not_or]
    exact ⟨hhead, hnumber⟩

/-- Moving schemas to components makes schemas that can be referred to. -/
theorem Hoists.areReferable (h : Hoists r options registry later)
    (hsuffixes : options.SuffixesReferable) (hknown : AreReferable r registry.known) :
    AreReferable r later.known := by
  induction h with
  | refl => exact hknown
  | @step later suffixes h hmem usage schema ih =>
      obtain ⟨made, hname, hmade, -, -, -, hadded⟩ := known_hoist r later usage suffixes schema
      rw [hadded]
      refine ih.append (List.forall_mem_singleton.mpr ⟨hmade, ?_⟩)
      rw [hname]
      exact slash_not_mem_chooseName (slash_not_mem_componentNames (hsuffixes _ hmem))

/-- A component that a schema was just moved to can be referred to. -/
theorem typeExpr_ref_hoist (r : Resolver) (registry : Registry) (usage : String)
    {suffixes : List String} (schema : OrRef Schema)
    (h : ∀ suffix ∈ suffixes, '/' ∉ suffix.toList) :
    r.typeExpr (.ref (hoist r registry usage suffixes schema).1.path)
      = (hoist r registry usage suffixes schema).1.typeName := by
  obtain ⟨made, hname, hmade, -, hpath, htypeName, -⟩ :=
    known_hoist r registry usage suffixes schema
  rw [← hpath, ← htypeName]
  refine hmade.typeExpr_ref ?_
  rw [hname]
  exact slash_not_mem_chooseName (slash_not_mem_componentNames h)

/-! ## Distinct type names and paths -/

/-- A new component has a new type name. -/
theorem typeName_not_mem {candidates : List String} {made : NamedSchema} (hmade : made.IsStandard r)
    (hname : made.name = registry.chooseName r candidates) :
    made.typeName ∉ registry.known.map (·.typeName) := by
  rw [hmade.typeName_eq, hname]
  exact (isFree_iff registry r).mp (isFree_chooseName registry r candidates)

theorem Hoists.nodup_typeName (h : Hoists r options registry later)
    (hdistinct : (registry.known.map (·.typeName)).Nodup) :
    (later.known.map (·.typeName)).Nodup := by
  induction h with
  | refl => exact hdistinct
  | @step later suffixes _ _ usage schema ih =>
      obtain ⟨made, hname, hmade, -, -, -, hadded⟩ := known_hoist r later usage suffixes schema
      rw [hadded, List.map_append, List.map_singleton, ← List.concat_eq_append]
      exact ih.concat (typeName_not_mem hmade hname)

/-- A new component has a new path as well, because one path has one type name. -/
theorem Hoists.nodup_path (h : Hoists r options registry later) (hstandard : registry.Standard r)
    (hdistinct : (registry.known.map (·.path)).Nodup) : (later.known.map (·.path)).Nodup := by
  induction h with
  | refl => exact hdistinct
  | @step later suffixes h _ usage schema ih =>
      obtain ⟨made, hname, hmade, -, -, -, hadded⟩ := known_hoist r later usage suffixes schema
      have hfree : made.path ∉ later.known.map (·.path) := by
        intro hmem
        obtain ⟨old, hold, hpath⟩ := List.mem_map.mp hmem
        have hsame := (h.grows.standard hstandard old hold).typeName_unique hmade hpath
        exact typeName_not_mem hmade hname (List.mem_map.mpr ⟨old, hold, hsame⟩)
      rw [hadded, List.map_append, List.map_singleton, ← List.concat_eq_append]
      exact ih.concat hfree

end Registry

/-! ## Sound registries -/

/-- A named schema is the entry of a component. -/
structure NamedSchema.IsEntryOf (r : Resolver) (schema : NamedSchema) (component : Component) :
    Prop where
  typeName_eq : schema.typeName = component.typeName
  path_eq : schema.path = component.path
  content_eq : schema.content = r.typeExpr component.schema

namespace Registry

variable {r : Resolver} {registry later : Registry} {options : ExtractOptions}

theorem created_hoist (r : Resolver) (registry : Registry) (usage : String)
    (suffixes : List String) (schema : OrRef Schema) :
    (hoist r registry usage suffixes schema).2.created
      = registry.created ++ [(hoist r registry usage suffixes schema).1] :=
  rfl

/-- The named schemas of the later registry are those of the earlier one and the components that
were created since. -/
theorem Hoists.exists_made (h : Hoists r options registry later) :
    ∃ made components, later.known = registry.known ++ made
      ∧ later.created = registry.created ++ components
      ∧ List.Forall₂ (NamedSchema.IsEntryOf r) made components := by
  induction h with
  | refl => exact ⟨[], [], (List.append_nil _).symm, (List.append_nil _).symm, .nil⟩
  | @step later suffixes _ _ usage schema ih =>
      obtain ⟨made, components, hknown, hcreated, hentries⟩ := ih
      obtain ⟨last, -, -, hcontent, hpath, htypeName, hadded⟩ :=
        known_hoist r later usage suffixes schema
      refine ⟨made ++ [last], components ++ [(hoist r later usage suffixes schema).1], ?_, ?_, ?_⟩
      · rw [hadded, hknown, List.append_assoc]
      · rw [created_hoist, hcreated, List.append_assoc]
      · exact List.rel_append hentries (.cons ⟨htypeName, hpath, hcontent⟩ .nil)

/-- What is said of a registry by its references: type names and paths tell the named schemas apart,
a path is rendered as the type name that belongs to it, and the components are the named schemas
that the document does not have. -/
structure Sound (r : Resolver) (registry : Registry) : Prop where
  nodup_typeName : (registry.known.map (·.typeName)).Nodup
  nodup_path : (registry.known.map (·.path)).Nodup
  typeExpr_ref : ∀ schema ∈ registry.known, r.typeExpr (.ref schema.path) = schema.typeName
  created : ∃ made, registry.known = (ofResolver r).known ++ made
    ∧ List.Forall₂ (NamedSchema.IsEntryOf r) made registry.created

/-- The document's own schemas can be referred to if their names have no slash. -/
theorem areReferable_ofResolver (h : ∀ name ∈ r.components.schemas.keys, '/' ∉ name.toList) :
    AreReferable r (ofResolver r).known := by
  intro schema hschema
  refine ⟨standard_ofResolver r schema hschema, ?_⟩
  obtain ⟨entry, hentry, rfl⟩ := List.mem_map.mp hschema
  exact h _ (List.mem_map_of_mem hentry)

theorem nodup_typeName_ofResolver (h : (r.components.schemas.keys.map r.typeName).Nodup) :
    ((ofResolver r).known.map (·.typeName)).Nodup := by
  have hsame : (ofResolver r).known.map (·.typeName)
      = r.components.schemas.keys.map r.typeName := by
    rw [ofResolver, Entries.keys, List.map_map, List.map_map]
    rfl
  rwa [hsame]

theorem nodup_path_ofResolver (h : r.components.schemas.keys.Nodup) :
    ((ofResolver r).known.map (·.path)).Nodup := by
  have hsame : (ofResolver r).known.map (·.path)
      = r.components.schemas.keys.map ("#/components/schemas/" ++ ·) := by
    rw [ofResolver, Entries.keys, List.map_map, List.map_map]
    rfl
  rw [hsame]
  refine h.map fun name other heq => ?_
  rw [← String.toList_inj, String.toList_append, String.toList_append] at heq
  exact String.toList_inj.mp (List.append_cancel_left heq)

/-- A registry that comes from the document's own is sound. -/
theorem Hoists.sound (h : Hoists r options (ofResolver r) registry)
    (hsuffixes : options.SuffixesReferable)
    (hnames : ∀ name ∈ r.components.schemas.keys, '/' ∉ name.toList)
    (hdistinct : (r.components.schemas.keys.map r.typeName).Nodup) : registry.Sound r := by
  have hreferable := h.areReferable hsuffixes (areReferable_ofResolver hnames)
  have hnodup := h.nodup_typeName (nodup_typeName_ofResolver hdistinct)
  obtain ⟨made, components, hknown, hcreated, hentries⟩ := h.exists_made
  have hpaths := h.nodup_path (standard_ofResolver r) (nodup_path_ofResolver hdistinct.of_map)
  refine ⟨hnodup, hpaths, fun schema hschema => ?_, made, hknown, ?_⟩
  · obtain ⟨hstandard, hslash⟩ := hreferable schema hschema
    exact hstandard.typeExpr_ref hslash
  · rw [hcreated]
    exact hentries

end Registry

end ApiRoutes
