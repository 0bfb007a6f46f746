import ApiRoutes.Proofs.Text.NameLike
import ApiRoutes.Proofs.Types.References
import ApiRoutes.Proofs.Types.Rendered

/-!
# Reusing named schemas

A body whose type expression is known is answered with a reference to the schema that it stands for.
The expression is compared as a text, first to the type names and only then to the contents. So the
content of the schema is the expression of the body, unless the expression is the schema's name.

When is it? With affixes of word characters type names look like names (`Text.isNameLike`), and few
types are rendered to such a text: names, numbers that are written like one, uploads, and unions and
intersections of types that are all rendered to the same one (`TypeTree.render_eq_iff_spells`).
`content_of_reused` is about every registry that a run comes to.
-/

namespace ApiRoutes

open Text (isNameLike isWordChar)

/-! ## Texts that look like names -/

/-- Of texts that are all the same, one is left. -/
theorem Text.distinct_eq_singleton_iff {items : List String} {name : String} :
    distinct items = [name] ↔ items ≠ [] ∧ ∀ item ∈ items, item = name := by
  constructor
  · intro h
    refine ⟨?_, fun item hitem => ?_⟩
    · rintro rfl
      cases h
    · exact List.mem_singleton.mp (h ▸ mem_distinct.mpr hitem)
  · rintro ⟨hne, hall⟩
    have hnodup := nodup_distinct items
    have hsame : ∀ item ∈ distinct items, item = name :=
      fun item hitem => hall item (mem_distinct.mp hitem)
    cases hdistinct : distinct items with
    | nil =>
        obtain ⟨first, hfirst⟩ := List.exists_mem_of_ne_nil items hne
        exact absurd (mem_distinct.mpr hfirst) (hdistinct ▸ List.not_mem_nil)
    | cons first rest =>
        rw [hdistinct, List.forall_mem_cons] at hsame
        obtain ⟨rfl, hrest⟩ := hsame
        cases rest with
        | nil => rfl
        | cons next rest =>
            rw [hdistinct, hrest next List.mem_cons_self] at hnodup
            exact absurd List.mem_cons_self (List.nodup_cons.mp hnodup).1

/-- Texts that are joined by something else than word characters do not look like a name, unless
they are all the same. -/
theorem Text.eq_of_joinDistinct_eq {separator name : String} {items : List String} {c : Char}
    (hc : c ∈ separator.toList) (hword : isWordChar c = false) (hname : isNameLike name = true)
    (h : joinDistinct separator items = name) : items ≠ [] ∧ ∀ item ∈ items, item = name := by
  refine distinct_eq_singleton_iff.mp ?_
  rw [joinDistinct] at h
  cases hdistinct : distinct items with
  | nil =>
      rw [hdistinct] at h
      obtain rfl : "" = name := h
      exact absurd hname (by decide)
  | cons first rest =>
      rw [hdistinct] at h
      cases rest with
      | nil => exact congrArg (fun item => [item]) h
      | cons next rest =>
          have hin : c ∈ name.toList := by
            rw [← h, joinWith, String.toList_append, String.toList_append]
            exact List.mem_append_left _ (List.mem_append_right _ hc)
          exact absurd (isWordChar_of_isNameLike hname hin) (by simp [hword])

theorem Text.joinDistinct_of_forall_eq {separator name : String} {items : List String}
    (hne : items ≠ []) (h : ∀ item ∈ items, item = name) :
    joinDistinct separator items = name := by
  rw [joinDistinct, distinct_eq_singleton_iff.mpr ⟨hne, h⟩]
  rfl

namespace TypeTree

/-- A type that is nothing but a name: a named type, a literal or an upload that is written like the
name, or several of these that are all written alike. -/
inductive Spells (name : String) : TypeTree → Prop
  | named : Spells name (named name)
  | literal : Spells name (literal name)
  | binary (h : name = "File") : Spells name binary
  | union {variants : List TypeTree} (hne : variants ≠ [])
      (h : ∀ variant ∈ variants, Spells name variant) : Spells name (union variants)
  | intersection {parts : List TypeTree} (hne : parts ≠ [])
      (hplain : ∀ part ∈ parts, part.isUnion = false)
      (h : ∀ part ∈ parts, Spells name part) : Spells name (intersection parts)

section

variable {name : String} (hname : isNameLike name = true)
include hname

theorem render_ne_of_mem {type : TypeTree} {c : Char} (hc : c ∈ type.render.toList)
    (hword : isWordChar c = false) : type.render ≠ name := by
  intro h
  rw [h] at hc
  exact absurd (Text.isWordChar_of_isNameLike hname hc) (by simp [hword])

/-- Array, table and object types have brackets. -/
theorem render_array_ne (items : TypeTree) : (array items).render ≠ name := by
  refine render_ne_of_mem hname (c := ']') ?_ (by decide)
  show ']' ∈ (if items.needsParens then "(" ++ items.render ++ ")[]"
    else items.render ++ "[]").toList
  split <;> simp

theorem render_map_ne (values : TypeTree) : (map values).render ≠ name := by
  refine render_ne_of_mem hname (c := '<') ?_ (by decide)
  show '<' ∈ ("Record<string, " ++ values.render ++ ">").toList
  simp

theorem render_object_ne (fields : List (String × TypeTree × Bool)) :
    (object fields).render ≠ name := by
  refine render_ne_of_mem hname (c := ' ') ?_ (by decide)
  cases fields with
  | nil => decide
  | cons field rest =>
      show ' ' ∈ ("\x7b " ++ Text.joinWith "; " (renderFields (field :: rest)) ++ " \x7d").toList
      simp

theorem render_stringLiteral_ne (text : String) : (stringLiteral text).render ≠ name := by
  refine render_ne_of_mem hname (c := '"') ?_ (by decide)
  show '"' ∈ ("\"" ++ Text.escape text ++ "\"").toList
  simp

theorem isUnion_eq_false_of_parens {part : TypeTree}
    (h : (if part.isUnion then "(" ++ part.render ++ ")" else part.render) = name) :
    part.isUnion = false ∧ part.render = name := by
  cases hunion : part.isUnion with
  | false => rw [hunion] at h; exact ⟨rfl, h⟩
  | true =>
      rw [hunion, if_pos rfl] at h
      have hparen : '(' ∈ name.toList := by rw [← h]; simp
      exact absurd (Text.isWordChar_of_isNameLike hname hparen) (by decide)

end

mutual

/-- Only what spells a name is rendered to it. -/
theorem spells_of_render {name : String} (hname : isNameLike name = true) :
    ∀ type : TypeTree, type.render = name → type.Spells name
  | string, h => absurd (h ▸ hname) (by decide)
  | stringLiteral text, h => absurd h (render_stringLiteral_ne hname text)
  | literal text, h => by
      obtain rfl : text = name := h
      exact .literal
  | number, h => absurd (h ▸ hname) (by decide)
  | integer, h => absurd (h ▸ hname) (by decide)
  | boolean, h => absurd (h ▸ hname) (by decide)
  | null, h => absurd (h ▸ hname) (by decide)
  | any, h => absurd (h ▸ hname) (by decide)
  | dateTime, h => absurd (h ▸ hname) (by decide)
  | binary, h => .binary h.symm
  | named text, h => by
      obtain rfl : text = name := h
      exact .named
  | array items, h => absurd h (render_array_ne hname items)
  | map values, h => absurd h (render_map_ne hname values)
  | object fields, h => absurd h (render_object_ne hname fields)
  | union variants, h => by
      obtain ⟨hne, hall⟩ := Text.eq_of_joinDistinct_eq (c := '|') (by decide) (by decide) hname h
      rw [renderAll_eq_map] at hne hall
      exact .union (by simpa using hne) (spells_of_forall_render hname variants
        fun variant hvariant => hall _ (List.mem_map_of_mem hvariant))
  | intersection parts, h => by
      obtain ⟨hne, hall⟩ := Text.eq_of_joinDistinct_eq (c := '&') (by decide) (by decide) hname h
      rw [renderParts_eq_map] at hne hall
      have hplain : ∀ part ∈ parts, part.isUnion = false ∧ part.render = name :=
        fun part hpart => isUnion_eq_false_of_parens hname (hall _ (List.mem_map_of_mem hpart))
      exact .intersection (by simpa using hne) (fun part hpart => (hplain part hpart).1)
        (spells_of_forall_render hname parts fun part hpart => (hplain part hpart).2)

theorem spells_of_forall_render {name : String} (hname : isNameLike name = true) :
    ∀ types : List TypeTree, (∀ type ∈ types, type.render = name) → ∀ type ∈ types, type.Spells name
  | [], _ => fun _ hnil => nomatch hnil
  | first :: rest, h => by
      obtain ⟨hfirst, hrest⟩ := List.forall_mem_cons.mp h
      exact List.forall_mem_cons.mpr
        ⟨spells_of_render hname first hfirst, spells_of_forall_render hname rest hrest⟩

end

/-- A type is rendered to a name exactly when it spells the name. -/
theorem render_eq_iff_spells {name : String} (hname : isNameLike name = true) {type : TypeTree} :
    type.render = name ↔ type.Spells name := by
  refine ⟨spells_of_render hname type, fun h => ?_⟩
  induction h with
  | named => rfl
  | literal => rfl
  | binary h => exact h.symm
  | union hne _ ih =>
      refine Text.joinDistinct_of_forall_eq ?_ ?_
      · rw [renderAll_eq_map]
        simpa using hne
      · rw [renderAll_eq_map]
        exact List.forall_mem_map.mpr ih
  | intersection hne hplain _ ih =>
      refine Text.joinDistinct_of_forall_eq ?_ ?_
      · rw [renderParts_eq_map]
        simpa using hne
      · rw [renderParts_eq_map]
        refine List.forall_mem_map.mpr fun part hpart => ?_
        rw [hplain part hpart]
        exact ih part hpart

end TypeTree

/-! ## Type names -/

/-- Affixes of word characters. -/
structure Affixes.AreWords (affixes : Affixes) : Prop where
  before : ∀ c ∈ affixes.before.toList, isWordChar c = true
  after : ∀ c ∈ affixes.after.toList, isWordChar c = true

/-- Between such affixes all type names look like names. -/
theorem Affixes.AreWords.isNameLike_typeName {affixes : Affixes} (h : affixes.AreWords)
    (name : String) : isNameLike (affixes.typeName name) = true :=
  Text.isNameLike_append h.before (Text.isNameLike_pascal name) h.after

/-! ## Answers -/

/-- The content of a request body or response that is no reference. -/
def BodyNode.content? : BodyNode → Option (Entries MediaType)
  | .request (.inline declared) => some declared.content
  | .response (.inline declared) => some declared.content
  | _ => none

/-- The first content schema of a request body or response. -/
def BodyNode.firstSchema? (node : BodyNode) : Option (OrRef Schema) :=
  node.content?.bind ApiRoutes.firstSchema?

theorem Registry.of_findReusable {known : List NamedSchema} {type : String} {found : NamedSchema}
    (h : findReusable known type = some found) : found.typeName = type ∨ found.content = type := by
  unfold findReusable at h
  split at h
  · rename_i named hnamed
    cases h
    exact .inl (by simpa using List.find?_some hnamed)
  · split at h
    · exact .inr (by simpa using List.find?_some h)
    · cases h

/-- The answer for an inline schema is a reference only to the schema that its expression stands
for. -/
theorem ResolvedBody.findReusable_of_schema_eq_ref {r : Resolver} {known : List NamedSchema}
    {operationId default : Option String} {node : BodyNode} {schema : Schema} {path : String}
    (hfirst : node.firstSchema? = some (.inline schema))
    (h : (ofNode r known operationId default node).schema = some (.ref path)) :
    ∃ found, Registry.findReusable known (r.typeExpr (.inline schema)) = some found
      ∧ found.path = path := by
  obtain ⟨content, hcontent, hschema⟩ := Option.bind_eq_some_iff.mp hfirst
  have hnode : ofNode r known operationId default node = ofContent r known default content := by
    unfold BodyNode.content? at hcontent
    split at hcontent
    · cases hcontent; rfl
    · cases hcontent; rfl
    · cases hcontent
  rw [hnode, ofContent, hschema] at h
  cases hfound : Registry.findReusable known (r.typeExpr (.inline schema)) with
  | none => simp [hfound] at h
  | some found => exact ⟨found, rfl, by simpa [hfound] using h⟩

/-- A path belongs to one schema of a run's registry. -/
theorem Reached.eq_of_path_eq {doc : Document} {options : RouteOptions} {registry : Registry}
    (h : Reached doc options registry) (hkeys : doc.parts.schemas.keys.Nodup)
    {first second : NamedSchema} (hfirst : first ∈ registry.known)
    (hsecond : second ∈ registry.known) (hpath : first.path = second.path) : first = second :=
  List.inj_on_of_nodup_map (h.hoists.nodup_path (Registry.standard_ofResolver _)
    (Registry.nodup_path_ofResolver hkeys)) hfirst hsecond hpath

/-- **Reuse.** Whenever a run comes to resolve a body whose first content schema is inline, and
answers with a reference to a named schema, the content of that schema is the type expression of the
inline one, unless the expression is the name of that schema. With affixes of word characters this
is so only if the inline schema is nothing but the name. -/
theorem content_of_reused {doc : Document} {options : RouteOptions} {registry : Registry}
    {operationId default : Option String} {node : BodyNode} {schema : Schema} {found : NamedSchema}
    (hkeys : doc.parts.schemas.keys.Nodup) (h : Reached doc options registry)
    (hfirst : node.firstSchema? = some (.inline schema)) (hfound : found ∈ registry.known)
    (hanswer : (ResolvedBody.ofNode (.ofDocument doc options.affixes) registry.known operationId
      default node).schema = some (.ref found.path)) :
    found.content = (Resolver.ofDocument doc options.affixes).typeExpr (.inline schema)
      ∨ found.typeName = (Resolver.ofDocument doc options.affixes).typeExpr (.inline schema)
        ∧ (options.affixes.AreWords →
          ((Resolver.ofDocument doc options.affixes).tree (.inline schema)).Spells
            found.typeName) := by
  obtain ⟨reused, hreused, hpath⟩ := ResolvedBody.findReusable_of_schema_eq_ref hfirst hanswer
  obtain rfl : reused = found :=
    h.eq_of_path_eq hkeys (Registry.mem_of_findReusable hreused) hfound hpath
  rcases Registry.of_findReusable hreused with hname | hcontent
  · refine .inr ⟨hname, fun hwords => ?_⟩
    have hstandard := h.hoists.grows.standard (Registry.standard_ofResolver _) reused hfound
    have hlike : isNameLike reused.typeName = true := by
      rw [hstandard.typeName_eq]
      exact hwords.isNameLike_typeName reused.name
    exact (TypeTree.render_eq_iff_spells hlike).mp hname.symm
  · exact .inl hcontent

/-- A pet, as an object. -/
def petObject : Schema := .object [("name", .inline .string)] []

/-- A pet, as a composition of nothing but the named schema. -/
def petAlias : Schema := { allOf := [.ref "#/components/schemas/Pet"] }

/-- A document with a schema for pets. -/
def petDocument : Document :=
  { openapi := "3.0.0"
    info := { title := "Pet", version := "1" }
    components := some { schemas := [("Pet", .inline petObject)] } }

/-- A response with a given schema. -/
def petResponse (schema : Schema) : BodyNode :=
  .response (.inline { content := [("application/json", { schema := some (.inline schema) })] })

/-- The inline object is answered with a reference to the named schema, which has its content. -/
theorem content_of_reusedPet : ∃ registry found,
    Reached petDocument {} registry ∧ found ∈ registry.known
      ∧ (ResolvedBody.ofNode (.ofDocument petDocument {}) registry.known none none
          (petResponse petObject)).schema = some (.ref found.path)
      ∧ found.content = (Resolver.ofDocument petDocument {}).typeExpr (.inline petObject) := by
  let found : NamedSchema :=
    ⟨"Pet", "Pet", "#/components/schemas/Pet", "\x7b name?: string \x7d"⟩
  have hreached := @reached_start petDocument {} _ rfl
  have hknown : found ∈ (Registry.ofResolver (.ofDocument petDocument {})).known := by
    decide +kernel
  have hanswer : (ResolvedBody.ofNode (.ofDocument petDocument {})
      (Registry.ofResolver (.ofDocument petDocument {})).known none none
      (petResponse petObject)).schema = some (.ref found.path) := by
    rfl
  refine ⟨_, found, hreached, hknown, hanswer, ?_⟩
  rcases content_of_reused (by decide) hreached rfl hknown hanswer with hcontent | ⟨hname, -⟩
  · exact hcontent
  · exact absurd hname (by decide +kernel)

/-- The composition is answered with a reference to the named schema, too, whose content is not the
expression of the composition. -/
theorem reuses_other_content : ∃ registry found,
    Reached petDocument {} registry ∧ found ∈ registry.known
      ∧ (petResponse petAlias).firstSchema? = some (.inline petAlias)
      ∧ (ResolvedBody.ofNode (.ofDocument petDocument {}) registry.known none none
          (petResponse petAlias)).schema = some (.ref found.path)
      ∧ found.content ≠ (Resolver.ofDocument petDocument {}).typeExpr (.inline petAlias) :=
  ⟨_, ⟨"Pet", "Pet", "#/components/schemas/Pet", "\x7b name?: string \x7d"⟩,
    @reached_start petDocument {} _ rfl, by decide +kernel, rfl, rfl, by decide +kernel⟩

end ApiRoutes
