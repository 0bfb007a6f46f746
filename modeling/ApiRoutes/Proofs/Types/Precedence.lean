import ApiRoutes.Proofs.Types.Reuse

/-!
# Precedence in type expressions

The brackets of an array and the `&` of an intersection bind tighter than a bar, so that what stands
before or between them has to be in parentheses if it is joined by a bar outside of all brackets.
Rendering decides on the parentheses by the outermost form of a type: an intersection puts every union
among its parts in them, an array only unions of more than one variant. A union of a single variant
is written as the variant, so that an array of such a union is the array of whatever the variant is
joined with.

`respectsPrecedence_iff` says that nothing else goes wrong: a schema's type expression respects
precedence exactly when no array in its tree is one of a single variant that is joined outside
(`TypeTree.Tight`). The proof finds the operators outside brackets in the tree
(`TypeTree.Joins`): those in the text are in the tree (`Made.joins_of_mem_outer`) and those in the
tree are in the text (`Joins.infix_outer`). In a tight tree nothing is joined before the brackets of
an array (`Tight.not_joins_items`), and only unions are joined by bars (`Tight.not_joins_bar`).
-/

namespace ApiRoutes

open Text (Balanced HasOutside Parenthesised balanced_of_isPlainChar infix_outer_joinWith
  infix_outer_separator isWordChar keptByRendering_balanced mem_distinct mem_outer_joinWith outer
  outer_append outer_braces outer_parens outer_quoted outer_record)

namespace TypeTree

/-! ## Where a type is written -/

/-- A type that is part of another one, or that one itself. -/
inductive Occurs (type : TypeTree) : TypeTree → Prop
  | here : Occurs type type
  | array {items : TypeTree} (h : Occurs type items) : Occurs type (array items)
  | object {fields : List (String × TypeTree × Bool)} {field : String × TypeTree × Bool}
      (hfield : field ∈ fields) (h : Occurs type field.2.1) : Occurs type (object fields)
  | map {values : TypeTree} (h : Occurs type values) : Occurs type (map values)
  | union {variants : List TypeTree} {variant : TypeTree} (hvariant : variant ∈ variants)
      (h : Occurs type variant) : Occurs type (union variants)
  | intersection {parts : List TypeTree} {part : TypeTree} (hpart : part ∈ parts)
      (h : Occurs type part) : Occurs type (intersection parts)

theorem Occurs.trans {inner middle outer : TypeTree} (h : Occurs inner middle)
    (h' : Occurs middle outer) : Occurs inner outer := by
  induction h' with
  | here => exact h
  | array _ ih => exact .array ih
  | object hfield _ ih => exact .object hfield ih
  | map _ ih => exact .map ih
  | union hvariant _ ih => exact .union hvariant ih
  | intersection hpart _ ih => exact .intersection hpart ih

/-- What is written before the brackets of an array is in parentheses or not joined outside, and the
parts of an intersection are in parentheses or not joined by a bar outside. -/
structure RespectsPrecedence (type : TypeTree) : Prop where
  array : ∀ (items : TypeTree) (text : String), Occurs (array items) type →
    (TypeTree.array items).render = text ++ "[]" →
    Parenthesised text ∨ (¬ HasOutside " | " text ∧ ¬ HasOutside " & " text)
  intersection : ∀ parts, Occurs (intersection parts) type → ∀ text ∈ renderParts parts,
    Parenthesised text ∨ ¬ HasOutside " | " text

/-- No array of the tree is one of a single variant that is joined outside. -/
def Tight (type : TypeTree) : Prop :=
  ∀ variant, Occurs (array (union [variant])) type →
    ¬ HasOutside " | " variant.render ∧ ¬ HasOutside " & " variant.render

theorem Tight.of_occurs {part type : TypeTree} (h : type.Tight) (hpart : Occurs part type) :
    part.Tight :=
  fun variant hvariant => h variant (hvariant.trans hpart)

theorem not_hasOutside_of_parenthesised {text : String} (h : Parenthesised text) :
    ¬ HasOutside " | " text ∧ ¬ HasOutside " & " text := by
  obtain ⟨inner, rfl, hinner⟩ := h
  rw [HasOutside, HasOutside, outer_parens hinner]
  decide

/-- Precedence is respected in tight trees only. -/
theorem RespectsPrecedence.tight {type : TypeTree} (h : type.RespectsPrecedence) : type.Tight := by
  intro variant hvariant
  rcases h.array (union [variant]) variant.render hvariant rfl with hparens | hplain
  · exact not_hasOutside_of_parenthesised hparens
  · exact hplain

/-- Whether the text of a type is joined by an operator outside of all brackets, as its tree
tells. -/
inductive Joins (operator : Char) : TypeTree → Prop
  | variants {variants : List TypeTree} (hbar : operator = '|')
      (htwo : 2 ≤ (Text.distinct (renderAll variants)).length) : Joins operator (union variants)
  | variant {variants : List TypeTree} {variant : TypeTree} (hvariant : variant ∈ variants)
      (h : Joins operator variant) : Joins operator (union variants)
  | parts {parts : List TypeTree} (hand : operator = '&')
      (htwo : 2 ≤ (Text.distinct (renderParts parts)).length) :
      Joins operator (intersection parts)
  | part {parts : List TypeTree} {part : TypeTree} (hpart : part ∈ parts)
      (hplain : part.isUnion = false) (h : Joins operator part) :
      Joins operator (intersection parts)
  | array {items : TypeTree} (hplain : items.needsParens = false) (h : Joins operator items) :
      Joins operator (array items)

/-- The operators that join types. -/
def IsOperator (c : Char) : Prop := c = '|' ∨ c = '&'

theorem IsOperator.not_mem {c : Char} (h : IsOperator c) {cs : List Char}
    (hcs : '|' ∉ cs ∧ '&' ∉ cs) : c ∉ cs := by
  rcases h with rfl | rfl
  · exact hcs.1
  · exact hcs.2

theorem Joins.isOperator {operator : Char} {type : TypeTree} (h : Joins operator type) :
    IsOperator operator := by
  induction h with
  | variants hbar => exact .inl hbar
  | parts hand => exact .inr hand
  | variant _ _ ih | part _ _ _ ih | array _ _ ih => exact ih

theorem balanced_and : Balanced " & " := balanced_of_isPlainChar (by decide)

section

variable {typeName : String → String}

theorem Made.of_occurs {part type : TypeTree} (h : Occurs part type) (htype : Made typeName type) :
    Made typeName part := by
  induction h with
  | here => exact htype
  | array _ ih => cases htype with | array hitems => exact ih hitems
  | object hfield _ ih => cases htype with | object hfields => exact ih (hfields _ hfield)
  | map _ ih => cases htype with | map hvalues => exact ih hvalues
  | union hvariant _ ih => cases htype with | union _ hvariants => exact ih (hvariants _ hvariant)
  | intersection hpart _ ih =>
      cases htype with | intersection _ hparts => exact ih (hparts _ hpart)

/-! ## Where operators come from -/

variable (hnames : ∀ name, ∀ c ∈ (typeName name).toList, isWordChar c = true)
include hnames

theorem Made.balanced_render {type : TypeTree} (h : Made typeName type) : Balanced type.render :=
  h.kept_render keptByRendering_balanced fun name => balanced_of_isPlainChar
    (List.all_eq_true.mpr fun c hc => Text.isPlainChar_of_isWordChar (hnames name c hc))

theorem balanced_renderAll {types : List TypeTree} (h : ∀ type ∈ types, Made typeName type) :
    ∀ text ∈ Text.distinct (renderAll types), Balanced text := by
  intro text htext
  exact forall_mem_renderAll (fun type htype => (h type htype).balanced_render hnames) text
    (mem_distinct.mp htext)

theorem balanced_renderParts {parts : List TypeTree} (h : ∀ part ∈ parts, Made typeName part) :
    ∀ text ∈ Text.distinct (renderParts parts), Balanced text := by
  intro text htext
  exact keptByRendering_balanced.forall_mem_renderParts
    (fun part hpart => (h part hpart).balanced_render hnames) text (mem_distinct.mp htext)

/-- The operators outside brackets in the text of a tree are those the tree tells. -/
theorem Made.joins_of_mem_outer {operator : Char} (hoperator : IsOperator operator)
    {type : TypeTree} (h : Made typeName type) (hmem : operator ∈ outer type.render) :
    Joins operator type := by
  induction h with
  | string | number | integer | boolean | null | any | dateTime | binary =>
      exact absurd hmem (hoperator.not_mem (by decide))
  | stringLiteral text =>
      rw [render_stringLiteral, outer_quoted] at hmem
      exact absurd hmem (hoperator.not_mem (by decide))
  | truth b => cases b <;> exact absurd hmem (hoperator.not_mem (by decide))
  | numeral n =>
      have hchar := List.all_eq_true.mp (isNumeral_number n) _ (Text.Reading.mem_of_mem_outer hmem)
      rcases hoperator with rfl | rfl <;> exact absurd hchar (by decide)
  | named name =>
      have hchar := hnames name _ (Text.Reading.mem_of_mem_outer hmem)
      rcases hoperator with rfl | rfl <;> exact absurd hchar (by decide)
  | @array items hitems ih =>
      have hbalanced := hitems.balanced_render hnames
      cases hparens : items.needsParens with
      | true =>
          rw [render_array_of_needsParens hparens,
            outer_append (keptByRendering_balanced.parens hbalanced), outer_parens hbalanced] at hmem
          exact absurd hmem (hoperator.not_mem (by decide))
      | false =>
          rw [render_array_of_not_needsParens hparens, outer_append hbalanced,
            List.mem_append] at hmem
          rcases hmem with hinner | hbrackets
          · exact .array hparens (ih hinner)
          · exact absurd hbrackets (hoperator.not_mem (by decide))
  | @object fields hfields _ =>
      cases fields with
      | nil => exact absurd hmem (hoperator.not_mem (by decide))
      | cons field rest =>
          have hjoined := keptByRendering_balanced.joinFields
            fun other hother => (hfields other hother).balanced_render hnames
          rw [render_object_cons, outer_braces hjoined] at hmem
          exact absurd hmem (hoperator.not_mem (by decide))
  | map hvalues _ =>
      rw [render_map, outer_record (hvalues.balanced_render hnames)] at hmem
      exact absurd hmem (hoperator.not_mem (by decide))
  | @union variants _ hvariants ih =>
      rcases mem_outer_joinWith keptByRendering_balanced.bar (balanced_renderAll hnames hvariants)
        hmem with ⟨text, htext, hinner⟩ | ⟨htwo, hbar⟩
      · rw [mem_distinct, renderAll_eq_map] at htext
        obtain ⟨variant, hvariant, rfl⟩ := List.mem_map.mp htext
        exact .variant hvariant (ih variant hvariant hinner)
      · refine .variants ?_ htwo
        rcases hoperator with rfl | rfl
        · rfl
        · exact absurd hbar (by decide)
  | @intersection parts _ hparts ih =>
      rcases mem_outer_joinWith balanced_and (balanced_renderParts hnames hparts) hmem with
        ⟨text, htext, hinner⟩ | ⟨htwo, hand⟩
      · rw [mem_distinct, renderParts_eq_map] at htext
        obtain ⟨part, hpart, rfl⟩ := List.mem_map.mp htext
        cases hunion : part.isUnion with
        | true =>
            rw [hunion, if_pos rfl, outer_parens ((hparts part hpart).balanced_render hnames)]
              at hinner
            exact absurd hinner (hoperator.not_mem (by decide))
        | false =>
            rw [hunion, if_neg (by decide)] at hinner
            exact .part hpart hunion (ih part hpart hinner)
      · refine .parts ?_ htwo
        rcases hoperator with rfl | rfl
        · exact absurd hand (by decide)
        · rfl

/-- And an operator that the tree tells is there, between blanks. -/
theorem Joins.infix_outer {operator : Char} {type : TypeTree} (h : Joins operator type)
    (htype : Made typeName type) : [' ', operator, ' '] <:+: outer type.render := by
  induction h with
  | variants hbar htwo =>
      subst hbar
      cases htype with
      | union _ hvariants =>
          exact infix_outer_separator keptByRendering_balanced.bar
            (balanced_renderAll hnames hvariants) htwo
  | variant hvariant _ ih =>
      cases htype with
      | union _ hvariants =>
          refine (ih (hvariants _ hvariant)).trans (infix_outer_joinWith
            keptByRendering_balanced.bar (balanced_renderAll hnames hvariants) ?_)
          rw [mem_distinct, renderAll_eq_map]
          exact List.mem_map_of_mem hvariant
  | parts hand htwo =>
      subst hand
      cases htype with
      | intersection _ hparts =>
          exact infix_outer_separator balanced_and (balanced_renderParts hnames hparts) htwo
  | @part parts part hpart hplain _ ih =>
      cases htype with
      | intersection _ hparts =>
          refine (ih (hparts _ hpart)).trans (infix_outer_joinWith balanced_and
            (balanced_renderParts hnames hparts) ?_)
          rw [mem_distinct, renderParts_eq_map]
          exact List.mem_map.mpr ⟨part, hpart, by rw [hplain, if_neg (by decide)]⟩
  | array hplain _ ih =>
      cases htype with
      | array hitems =>
          rw [render_array_of_not_needsParens hplain, outer_append (hitems.balanced_render hnames)]
          exact (ih hitems).trans (List.prefix_append _ _).isInfix

/-! ## Tight trees -/

/-- An array of a union that is not in parentheses is one of a single variant. -/
theorem Tight.not_joins_union {variants : List TypeTree} {operator : Char}
    (htight : (array (union variants)).Tight) (hunion : Made typeName (union variants))
    (hparens : (union variants).needsParens = false) : ¬ Joins operator (union variants) := by
  intro h
  have hone : ∃ variant, variants = [variant] := by
    cases hunion with
    | union hne _ =>
        have hpos : 0 < variants.length := List.length_pos_iff.mpr hne
        have hle : variants.length ≤ 1 := by simpa [needsParens] using hparens
        exact List.length_eq_one_iff.mp (by omega)
  obtain ⟨variant, rfl⟩ := hone
  -- the union of one variant is written as the variant
  have hinfix : [' ', operator, ' '] <:+: outer variant.render := h.infix_outer hnames hunion
  obtain ⟨hbar, hand⟩ := htight variant .here
  rcases h.isOperator with rfl | rfl
  · exact hbar hinfix
  · exact hand hinfix

/-- What is not in parentheses before the brackets of an array is not joined. -/
theorem Tight.not_joins_items {items : TypeTree} {operator : Char} (htight : (array items).Tight)
    (hitems : Made typeName items) (hparens : items.needsParens = false) :
    ¬ Joins operator items := by
  intro h
  induction h with
  | variants hbar htwo =>
      exact htight.not_joins_union hnames hitems hparens (.variants hbar htwo)
  | variant hvariant h _ =>
      exact htight.not_joins_union hnames hitems hparens (.variant hvariant h)
  | parts _ _ | part _ _ _ _ =>
      cases hitems with
      | intersection htwo _ =>
          rw [needsParens, decide_eq_false_iff_not] at hparens
          exact hparens htwo
  | array hplain _ ih =>
      cases hitems with
      | array hinner => exact ih (htight.of_occurs (.array .here)) hinner hplain

/-- Of the types that are no unions none is joined by a bar. -/
theorem Tight.not_joins_bar {part : TypeTree} (htight : part.Tight) (hpart : Made typeName part)
    (hplain : part.isUnion = false) : ¬ Joins '|' part := by
  intro h
  induction h with
  | variants _ _ | variant _ _ _ => cases hplain
  | parts hand _ => cases hand
  | part hinner hunion _ ih =>
      cases hpart with
      | intersection _ hparts =>
          exact ih (htight.of_occurs (.intersection hinner .here)) (hparts _ hinner) hunion
  | array hparens h _ =>
      cases hpart with
      | array hitems => exact htight.not_joins_items hnames hitems hparens h

theorem Made.not_hasOutside {type : TypeTree} {operator : Char} (hoperator : IsOperator operator)
    (htype : Made typeName type) (h : ¬ Joins operator type) :
    ¬ HasOutside (String.ofList [' ', operator, ' ']) type.render := by
  intro houtside
  refine h (htype.joins_of_mem_outer hnames hoperator ?_)
  refine List.IsInfix.mem ?_ houtside
  simp

/-- In tight trees precedence is respected. -/
theorem Tight.respectsPrecedence {type : TypeTree} (htight : type.Tight)
    (htype : Made typeName type) : type.RespectsPrecedence where
  array := fun items text hoccurs htext => by
    have harray := htight.of_occurs hoccurs
    cases htype.of_occurs hoccurs with
    | array hitems =>
        cases hparens : items.needsParens with
        | true =>
            rw [render_array_of_needsParens hparens, String.append_left_inj] at htext
            exact .inl ⟨items.render, htext.symm, hitems.balanced_render hnames⟩
        | false =>
            rw [render_array_of_not_needsParens hparens, String.append_left_inj] at htext
            subst htext
            exact .inr
              ⟨hitems.not_hasOutside hnames (.inl rfl) (harray.not_joins_items hnames hitems hparens),
                hitems.not_hasOutside hnames (.inr rfl)
                  (harray.not_joins_items hnames hitems hparens)⟩
  intersection := fun parts hoccurs text htext => by
    cases htype.of_occurs hoccurs with
    | intersection _ hparts =>
        rw [renderParts_eq_map] at htext
        obtain ⟨part, hpart, rfl⟩ := List.mem_map.mp htext
        have hmade := hparts part hpart
        have hpartTight := htight.of_occurs (.trans (.intersection hpart .here) hoccurs)
        cases hunion : part.isUnion with
        | true => exact .inl ⟨part.render, by rw [if_pos rfl], hmade.balanced_render hnames⟩
        | false =>
            rw [if_neg (by decide)]
            exact .inr (hmade.not_hasOutside hnames (.inl rfl)
              (hpartTight.not_joins_bar hnames hmade hunion))

end

end TypeTree

/-- **Precedence.** With affixes of word characters, the type expression of a schema respects
precedence exactly when no array in it is one of a single variant that is joined outside. -/
theorem respectsPrecedence_iff {r : Resolver} (hwords : r.affixes.AreWords)
    (schema : OrRef Schema) : (r.tree schema).RespectsPrecedence ↔ (r.tree schema).Tight := by
  have hnames : ∀ name, ∀ c ∈ (r.typeName name).toList, isWordChar c = true :=
    fun name _ => Text.isWordChar_of_isNameLike (hwords.isNameLike_typeName name)
  exact ⟨TypeTree.RespectsPrecedence.tight,
    fun htight => htight.respectsPrecedence hnames (TypeTree.made_ofSchemaOrRef schema)⟩

/-- An array of labels, each of which may be null. -/
def labels : Schema :=
  { schemaType := some (.single .array)
    items := some (.inline
      { anyOf := [.inline { schemaType := some (.single .string), nullable := some true }] }) }

/-- An array of labels is written as a label or an array of nulls. -/
theorem precedence_lost_labels : (Resolver.mk {} {}).affixes.AreWords
    ∧ (Resolver.mk {} {}).typeExpr (.inline labels) = "string | null[]"
    ∧ ¬ ((Resolver.mk {} {}).tree (.inline labels)).RespectsPrecedence := by
  have hwords : (Resolver.mk {} {}).affixes.AreWords := ⟨by simp, by simp⟩
  refine ⟨hwords, by decide +kernel, fun h => ?_⟩
  have htight := (respectsPrecedence_iff hwords (.inline labels)).mp h
  exact absurd (by decide) (htight (.union [.string, .null]) .here).1

end ApiRoutes
