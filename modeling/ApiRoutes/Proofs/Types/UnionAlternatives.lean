import ApiRoutes.Proofs.Text.Bars
import ApiRoutes.Proofs.Types.Precedence

/-!
# Alternatives of unions

Of the variants of a union that are written the same, one is kept. But a variant may be a union
itself and is written out among the others, where nobody compares what it lists with its neighbours.
So an alternative is repeated exactly when two variants that are written differently have it in
common, in this union or in one that is written out in it (`Made.nodup_alternatives_iff`, with
`TypeTree.Repeats`).

Null comes last if it is added to the finished text, and it is added unless the text is `null` or
ends with it. So it is an alternative whenever it is asked for (`mem_alternatives_decorateNullable`),
and nothing is repeated because of it if the text did not list it yet.
-/

namespace ApiRoutes

open Text (Spaced alternatives bar)

/-! ## Adding null -/

theorem decorateNullable_true_cases (type : String) :
    decorateNullable true type = type ++ bar ++ "null"
      ∨ (decorateNullable true type = type
        ∧ (type = "null" ∨ ∃ start, type.toList = start ++ " | null".toList)) := by
  have happend : type ++ " | null" = type ++ bar ++ "null" := by rw [String.append_assoc]; rfl
  unfold decorateNullable
  rw [Bool.not_true, Bool.false_or]
  by_cases hnull : type = "null"
  · exact .inr ⟨if_pos (by simp [hnull]), .inl hnull⟩
  · cases hend : Text.dropEnd? " | null".toList type.toList with
    | none => exact .inl (by simp [hnull, ← happend])
    | some start => exact .inr ⟨if_pos (by simp), .inr ⟨start, Text.dropEnd?_eq_some_iff.mp hend⟩⟩

/-- Null is an alternative once it is added. -/
theorem mem_alternatives_decorateNullable {type : String} (h : Spaced type) :
    "null" ∈ alternatives (decorateNullable true type) := by
  rcases decorateNullable_true_cases type with hadded | ⟨hkept, rfl | ⟨start, hstart⟩⟩
  · rw [hadded, Text.alternatives_append h.closed]
    exact List.mem_append_right _ (by decide)
  · decide
  · rw [hkept]
    exact h.mem_alternatives_null hstart

/-- Adding null repeats nothing if null is no alternative yet. -/
theorem nodup_alternatives_decorateNullable {type : String} (h : Spaced type) {nullable : Bool}
    (hnull : decorateNullable nullable type = type ∨ "null" ∉ alternatives type) :
    (alternatives (decorateNullable nullable type)).Nodup ↔ (alternatives type).Nodup := by
  by_cases hkept : decorateNullable nullable type = type
  · rw [hkept]
  · have hnullable : nullable = true := by
      by_contra hplain
      rw [Bool.not_eq_true] at hplain
      exact hkept (by rw [hplain]; rfl)
    subst hnullable
    have hadded : decorateNullable true type = type ++ bar ++ "null" :=
      (decorateNullable_true_cases type).resolve_right fun hsame => hkept hsame.1
    have hone : alternatives "null" = ["null"] := by decide
    rw [hadded, Text.alternatives_append h.closed, hone, List.nodup_append]
    have hnew : "null" ∉ alternatives type := hnull.resolve_left hkept
    refine ⟨fun hnodup => hnodup.1, fun hnodup => ⟨hnodup, List.nodup_singleton _, ?_⟩⟩
    intro text htext other hother hsame
    rw [List.mem_singleton] at hother
    exact hnew (hother ▸ hsame ▸ htext)

/-! ## What a tree lists -/

namespace TypeTree

/-- An alternative of a type: what a union lists is what its variants list. -/
inductive Alternative (text : String) : TypeTree → Prop
  | part {type : TypeTree} (hplain : type.isUnion = false)
      (h : text ∈ alternatives type.render) : Alternative text type
  | variant {variants : List TypeTree} {variant : TypeTree} (hvariant : variant ∈ variants)
      (h : Alternative text variant) : Alternative text (union variants)

/-- An alternative is listed twice: by two variants that are written differently, within a variant, or
by a type that is no union. -/
inductive Repeats : TypeTree → Prop
  | shared {variants : List TypeTree} {first second : TypeTree} {text : String}
      (hfirst : first ∈ variants) (hsecond : second ∈ variants)
      (hdiffer : first.render ≠ second.render) (h : Alternative text first)
      (h' : Alternative text second) : Repeats (union variants)
  | variant {variants : List TypeTree} {variant : TypeTree} (hvariant : variant ∈ variants)
      (h : Repeats variant) : Repeats (union variants)
  | part {type : TypeTree} (hplain : type.isUnion = false)
      (h : ¬ (alternatives type.render).Nodup) : Repeats type

theorem alternative_iff_of_not_isUnion {text : String} {type : TypeTree}
    (hplain : type.isUnion = false) : Alternative text type ↔ text ∈ alternatives type.render := by
  refine ⟨fun h => ?_, .part hplain⟩
  cases h with
  | part _ h => exact h
  | variant _ _ => cases hplain

theorem repeats_iff_of_not_isUnion {type : TypeTree} (hplain : type.isUnion = false) :
    Repeats type ↔ ¬ (alternatives type.render).Nodup := by
  refine ⟨fun h => ?_, .part hplain⟩
  cases h with
  | part _ h => exact h
  | shared _ _ _ _ _ | variant _ _ => cases hplain

section

variable {typeName : String → String} (hnames : ∀ name, Spaced (typeName name))
include hnames

theorem Made.spaced_render {type : TypeTree} (h : Made typeName type) : Spaced type.render :=
  h.kept_render Text.keptByRendering_spaced hnames

theorem closed_renderAll {types : List TypeTree} (h : ∀ type ∈ types, Made typeName type) :
    ∀ text ∈ renderAll types, Text.Closed text :=
  forall_mem_renderAll fun type htype => ((h type htype).spaced_render hnames).closed

/-- The alternatives in the text of a type are those that its tree lists. -/
theorem Made.mem_alternatives_iff {text : String} {type : TypeTree} (h : Made typeName type) :
    text ∈ alternatives type.render ↔ Alternative text type := by
  induction h with
  | @union variants hne hvariants ih =>
      have hnonempty : renderAll variants ≠ [] := by simpa [renderAll_eq_map] using hne
      show text ∈ alternatives (Text.joinDistinct bar (renderAll variants)) ↔ _
      rw [Text.mem_alternatives_joinDistinct hnonempty (closed_renderAll hnames hvariants),
        renderAll_eq_map]
      constructor
      · rintro ⟨_, hrendered, hmem⟩
        obtain ⟨variant, hvariant, rfl⟩ := List.mem_map.mp hrendered
        exact .variant hvariant ((ih variant hvariant).mp hmem)
      · intro hlisted
        cases hlisted with
        | part hplain _ => cases hplain
        | variant hvariant h =>
            exact ⟨_, List.mem_map_of_mem hvariant, (ih _ hvariant).mpr h⟩
  | string | number | integer | boolean | null | any | dateTime | binary | stringLiteral _
  | truth _ | numeral _ | named _ | array _ _ | object _ _ | map _ _ | intersection _ _ _ =>
      exact (alternative_iff_of_not_isUnion rfl).symm

/-- Its alternatives are distinct unless its tree repeats one. -/
theorem Made.nodup_alternatives_iff {type : TypeTree} (h : Made typeName type) :
    (alternatives type.render).Nodup ↔ ¬ Repeats type := by
  induction h with
  | @union variants hne hvariants ih =>
      have hnonempty : renderAll variants ≠ [] := by simpa [renderAll_eq_map] using hne
      have hlisted : ∀ variant ∈ variants, ∀ text,
          text ∈ alternatives variant.render ↔ Alternative text variant :=
        fun variant hvariant _ => (hvariants variant hvariant).mem_alternatives_iff hnames
      show (alternatives (Text.joinDistinct bar (renderAll variants))).Nodup ↔ _
      rw [Text.nodup_alternatives_joinDistinct hnonempty (closed_renderAll hnames hvariants),
        renderAll_eq_map]
      simp only [List.forall_mem_map]
      constructor
      · rintro ⟨hnodup, hdisjoint⟩ hrepeats
        cases hrepeats with
        | shared hfirst hsecond hdiffer h h' =>
            exact hdisjoint _ hfirst _ hsecond hdiffer ((hlisted _ hfirst _).mpr h)
              ((hlisted _ hsecond _).mpr h')
        | variant hvariant h => exact (ih _ hvariant).mp (hnodup _ hvariant) h
        | part hplain _ => cases hplain
      · intro hfree
        refine ⟨fun variant hvariant => (ih variant hvariant).mpr fun h => hfree (.variant hvariant h),
          fun first hfirst second hsecond hdiffer text htext htext' => ?_⟩
        exact hfree (.shared hfirst hsecond hdiffer ((hlisted _ hfirst _).mp htext)
          ((hlisted _ hsecond _).mp htext'))
  | string | number | integer | boolean | null | any | dateTime | binary | stringLiteral _
  | truth _ | numeral _ | named _ | array _ _ | object _ _ | map _ _ | intersection _ _ _ =>
      rw [repeats_iff_of_not_isUnion rfl, not_not]

end

/-- In a tight tree a type that is no union is one alternative. -/
theorem Tight.alternatives_eq_singleton {typeName : String → String}
    (hwords : ∀ name, ∀ c ∈ (typeName name).toList, Text.isWordChar c = true) {part : TypeTree}
    (htight : part.Tight) (hpart : Made typeName part) (hplain : part.isUnion = false) :
    alternatives part.render = [part.render] :=
  Text.alternatives_eq_singleton fun hbar =>
    htight.not_joins_bar hwords hpart hplain (hpart.joins_of_mem_outer hwords (.inl rfl) hbar)

end TypeTree

/-! ## Schemas -/

/-- **Alternatives of a schema's type.** Null is one of them if the schema permits it, and they are
distinct exactly when the tree repeats none, provided that null is not added to a text that lists it
already. What is no union is one alternative, in a tight tree with affixes of word characters. -/
theorem alternatives_of_schema {r : Resolver} (hbefore : Spaced r.affixes.before)
    (hafter : Spaced r.affixes.after) (schema : Schema) :
    let tree := r.tree (.inline schema)
    let type := r.typeExpr (.inline schema)
    let decorated := decorateNullable schema.permitsNull type
    (schema.permitsNull = true → "null" ∈ alternatives decorated)
      ∧ (decorated = type ∨ "null" ∉ alternatives type →
        ((alternatives decorated).Nodup ↔ ¬ tree.Repeats))
      ∧ (r.affixes.AreWords → tree.Tight → ∀ part, TypeTree.Occurs part tree →
        part.isUnion = false → alternatives part.render = [part.render]) := by
  intro tree type decorated
  have hmade : TypeTree.Made r.typeName tree := TypeTree.made_ofSchemaOrRef (.inline schema)
  have hnames : ∀ name, Spaced (r.typeName name) :=
    Affixes.kept_typeName Text.keptByRendering_spaced hbefore hafter
  have hspaced : Spaced type := hmade.spaced_render hnames
  refine ⟨fun hnull => ?_, fun hnull => ?_, fun hwords htight part hpart hplain => ?_⟩
  · show "null" ∈ alternatives (decorateNullable schema.permitsNull type)
    rw [hnull]
    exact mem_alternatives_decorateNullable hspaced
  · exact (nodup_alternatives_decorateNullable hspaced hnull).trans
      (hmade.nodup_alternatives_iff hnames)
  · exact (htight.of_occurs hpart).alternatives_eq_singleton
      (fun name _ => Text.isWordChar_of_isNameLike (hwords.isNameLike_typeName name))
      (hmade.of_occurs hpart) hplain

/-- A pet, one of two letters, or null. -/
def petOrLetter : Schema :=
  { oneOf := [.ref "#/components/schemas/Pet", .inline { enumValues := [.text "a", .text "b"] }]
    nullable := some true }

/-- The letters are listed with the pet, and nothing is repeated. -/
theorem alternatives_petOrLetter :
    alternatives (decorateNullable petOrLetter.permitsNull
        ((Resolver.mk {} {}).typeExpr (.inline petOrLetter))) = ["Pet", "\"a\"", "\"b\"", "null"]
      ∧ ¬ ((Resolver.mk {} {}).tree (.inline petOrLetter)).Repeats := by
  have hempty : Spaced "" := Text.keptByRendering_spaced.plain (by decide)
  obtain ⟨-, hnodup, -⟩ :=
    alternatives_of_schema (r := Resolver.mk {} {}) hempty hempty petOrLetter
  have hlist : alternatives (decorateNullable petOrLetter.permitsNull
      ((Resolver.mk {} {}).typeExpr (.inline petOrLetter))) = ["Pet", "\"a\"", "\"b\"", "null"] := by
    decide +kernel
  exact ⟨hlist, (hnodup (.inl (by decide +kernel))).mp (by rw [hlist]; decide)⟩

/-- A text or a number, or a text. -/
def wordOrCount : Schema :=
  { oneOf := [.inline { schemaType := some (.multiple [.string, .number]) }, .inline .string] }

/-- A word or null. -/
def wordOrNull : Schema := { oneOf := [.ref "#/components/schemas/Word"], nullable := some true }

/-- A text is an alternative of the inner union and of the outer one. And between affixes that open a
quote, null is in the quote. -/
theorem alternative_repeated :
    alternatives (decorateNullable wordOrCount.permitsNull
        ((Resolver.mk {} {}).typeExpr (.inline wordOrCount))) = ["string", "number", "string"]
      ∧ ¬ (alternatives (decorateNullable wordOrCount.permitsNull
        ((Resolver.mk {} {}).typeExpr (.inline wordOrCount)))).Nodup
      ∧ wordOrNull.permitsNull = true
      ∧ "null" ∉ alternatives (decorateNullable wordOrNull.permitsNull
        ((Resolver.mk {} { before := "\"" }).typeExpr (.inline wordOrNull))) := by
  decide +kernel

end ApiRoutes
