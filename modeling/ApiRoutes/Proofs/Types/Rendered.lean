import ApiRoutes.Proofs.Text.Brackets
import ApiRoutes.Proofs.Types.SchemaTrees

/-!
# Rendered types

A tree of types is rendered by putting texts next to each other and in brackets. So a property of
texts that stands such operations (`Text.KeptByRendering`) is one of the texts of all trees of
schemas if it is one of their names (`TypeTree.Made.kept_render`): numbers are plain characters, and
any other text is quoted.

To be closed is such a property. So the type expression of every schema is closed if type names are
(`Resolver.closed_typeExpr`), and type names are if the affixes are (`Affixes.kept_typeName`).
-/

namespace ApiRoutes

open Text (Closed KeptByRendering isPlainChar)

/-! ## Plain characters -/

theorem Text.isPlainChar_of_isWordChar {c : Char} (h : isWordChar c = true) :
    isPlainChar c = true := by
  by_contra hplain
  simp only [isPlainChar, isOpening, isClosing, List.contains_cons, List.contains_nil,
    Bool.or_false, Bool.not_eq_true', Bool.or_eq_true, beq_iff_eq, decide_eq_true_eq,
    Bool.not_eq_false] at hplain
  rcases hplain with ((((rfl | rfl | rfl | rfl) | rfl | rfl | rfl | rfl) | rfl) | rfl) <;>
    exact absurd h (by decide)

theorem isPlainChar_of_isIdentifierRest {c : Char} (h : Text.isIdentifierRest c = true) :
    isPlainChar c = true := by
  simp only [Text.isIdentifierRest, Bool.or_eq_true, decide_eq_true_eq] at h
  rcases h with (hword | rfl) | rfl
  · exact Text.isPlainChar_of_isWordChar (by simp [Text.isWordChar, hword])
  · decide
  · decide

theorem isIdentifierRest_of_isIdentifierStart {c : Char} (h : Text.isIdentifierStart c = true) :
    Text.isIdentifierRest c = true := by
  simp only [Text.isIdentifierStart, Bool.or_eq_true] at h
  simp only [Text.isIdentifierRest, Char.isAlphanum, Bool.or_eq_true]
  tauto

theorem isPlainChar_of_isIdentifier {name : String} (h : Text.isIdentifier name = true) :
    name.toList.all isPlainChar = true := by
  rw [List.all_eq_true]
  unfold Text.isIdentifier at h
  cases hchars : name.toList with
  | nil => exact fun _ hnil => nomatch hnil
  | cons first rest =>
      rw [hchars, Bool.and_eq_true, List.all_eq_true] at h
      exact List.forall_mem_cons.mpr ⟨isPlainChar_of_isIdentifierRest
        (isIdentifierRest_of_isIdentifierStart h.1),
        fun c hc => isPlainChar_of_isIdentifierRest (h.2 c hc)⟩

/-! ## Numbers -/

/-- A character that numbers are written with; `null` stands for those that JSON does not have. -/
def isNumberChar (c : Char) : Bool :=
  c.isDigit || ['+', '-', '.', 'e', 'n', 'u', 'l'].contains c

/-- A text of such characters. -/
def IsNumeral (s : String) : Prop := s.toList.all isNumberChar = true

instance (s : String) : Decidable (IsNumeral s) := inferInstanceAs (Decidable (_ = true))

theorem isPlainChar_of_isNumberChar {c : Char} (h : isNumberChar c = true) :
    isPlainChar c = true := by
  simp only [isNumberChar, Bool.or_eq_true, List.contains_iff_mem, List.mem_cons,
    List.not_mem_nil, or_false] at h
  rcases h with hdigit | rfl | rfl | rfl | rfl | rfl | rfl | rfl
  · exact Text.isPlainChar_of_isWordChar (by simp [Text.isWordChar, Char.isAlphanum, hdigit])
  all_goals decide

theorem IsNumeral.isPlainChar {s : String} (h : IsNumeral s) :
    s.toList.all isPlainChar = true :=
  List.all_eq_true.mpr fun c hc => isPlainChar_of_isNumberChar (List.all_eq_true.mp h c hc)

theorem IsNumeral.append {s t : String} (hs : IsNumeral s) (ht : IsNumeral t) :
    IsNumeral (s ++ t) := by
  rw [IsNumeral, String.toList_append, List.all_append, Bool.and_eq_true]
  exact ⟨hs, ht⟩

theorem isNumeral_ofList {cs : List Char} (h : ∀ c ∈ cs, isNumberChar c = true) :
    IsNumeral (String.ofList cs) := by
  rwa [IsNumeral, String.toList_ofList, List.all_eq_true]

theorem isNumberChar_of_mem_toDigits {n : Nat} :
    ∀ c ∈ Nat.toDigits 10 n, isNumberChar c = true := by
  intro c hc
  have hdigit := Nat.isDigit_of_mem_toDigits (by decide) (by decide) hc
  simp [isNumberChar, hdigit]

theorem isNumeral_repr (n : Nat) : IsNumeral (Nat.repr n) := by
  rw [IsNumeral, Nat.toList_repr, List.all_eq_true]
  exact isNumberChar_of_mem_toDigits

theorem isNumeral_positional (d : Decimal.Scientific) : IsNumeral d.positional := by
  unfold Decimal.Scientific.positional
  extract_lets digits point
  have hdigits : ∀ c ∈ digits, isNumberChar c = true := isNumberChar_of_mem_toDigits
  have hzero : isNumberChar '0' = true := by decide
  have hpoint : isNumberChar '.' = true := by decide
  have hzeros : ∀ n, ∀ c ∈ List.replicate n '0', isNumberChar c = true := by
    intro n c hc
    rw [(List.mem_replicate.mp hc).2]
    exact hzero
  have hends : ∀ c ∈ ['.', '0'], isNumberChar c = true :=
    List.forall_mem_cons.mpr ⟨hpoint, List.forall_mem_singleton.mpr hzero⟩
  split
  · exact isNumeral_ofList (List.forall_mem_append.mpr
      ⟨List.forall_mem_append.mpr ⟨hdigits, hzeros _⟩, hends⟩)
  · split
    · exact isNumeral_ofList (List.forall_mem_append.mpr
        ⟨fun c hc => hdigits c (List.mem_of_mem_take hc),
          List.forall_mem_cons.mpr ⟨hpoint, fun c hc => hdigits c (List.mem_of_mem_drop hc)⟩⟩)
    · exact isNumeral_ofList (List.forall_mem_cons.mpr
        ⟨hzero, List.forall_mem_cons.mpr
          ⟨hpoint, List.forall_mem_append.mpr ⟨hzeros _, hdigits⟩⟩⟩)

theorem isNumeral_exponential (d : Decimal.Scientific) {plus : String} (hplus : IsNumeral plus) :
    IsNumeral (d.exponential plus) := by
  unfold Decimal.Scientific.exponential
  extract_lets digits power head tail mantissa sign
  have hdigits : ∀ c ∈ digits, isNumberChar c = true := isNumberChar_of_mem_toDigits
  have hhead : IsNumeral head := isNumeral_ofList fun c hc => hdigits c (List.mem_of_mem_take hc)
  have htail : IsNumeral (String.ofList tail) :=
    isNumeral_ofList fun c hc => hdigits c (List.mem_of_mem_drop hc)
  have hmantissa : IsNumeral mantissa := by
    simp only [mantissa]
    split
    · exact hhead
    · exact (hhead.append (by decide)).append htail
  have hsign : IsNumeral sign := by
    simp only [sign]
    split
    · decide
    · exact hplus
  exact ((hmantissa.append (by decide)).append hsign).append (isNumeral_repr _)

theorem isNumeral_write {format : Decimal.FloatFormat} (hplus : IsNumeral format.plus)
    (x : Decimal.Binary64) : IsNumeral (format.write x) := by
  unfold Decimal.FloatFormat.write
  extract_lets d sign
  have hsign : IsNumeral sign := by
    simp only [sign]
    split <;> decide
  split
  · exact hsign.append (isNumeral_positional d)
  · exact hsign.append (isNumeral_exponential d hplus)

/-- A number is written in such characters. -/
theorem isNumeral_number (n : Decimal.Number) : IsNumeral (JsonText.number n) := by
  cases n with
  | int n =>
      cases n with
      | ofNat m => exact isNumeral_repr m
      | negSucc m => exact IsNumeral.append (s := "-") (by decide) (isNumeral_repr (m + 1))
  | float x =>
      rw [JsonText.number]
      split
      · exact isNumeral_write (by decide) x
      · decide

/-! ## Trees -/

namespace TypeTree

theorem renderAll_eq_map (types : List TypeTree) : renderAll types = types.map render := by
  induction types with
  | nil => rfl
  | cons type rest ih => rw [renderAll, ih, List.map_cons]

theorem forall_mem_renderAll {P : String → Prop} {types : List TypeTree}
    (h : ∀ type ∈ types, P type.render) : ∀ text ∈ renderAll types, P text := by
  rw [renderAll_eq_map]
  exact List.forall_mem_map.mpr h

theorem renderParts_eq_map (parts : List TypeTree) : renderParts parts
    = parts.map fun part => if part.isUnion then "(" ++ part.render ++ ")" else part.render := by
  induction parts with
  | nil => rfl
  | cons part rest ih => rw [renderParts, ih, List.map_cons]

theorem renderFields_eq_map (fields : List (String × TypeTree × Bool)) : renderFields fields
    = fields.map fun field => fieldText field.1 field.2.1.render field.2.2 := by
  induction fields with
  | nil => rfl
  | cons field rest ih => rw [renderFields, ih, List.map_cons]

theorem render_stringLiteral (text : String) : (stringLiteral text).render = Text.quoted text := rfl

theorem render_map (values : TypeTree) :
    (map values).render = "Record<string, " ++ values.render ++ ">" := rfl

theorem render_object_cons (field : String × TypeTree × Bool)
    (rest : List (String × TypeTree × Bool)) : (object (field :: rest)).render
      = "\x7b " ++ Text.joinWith "; " (renderFields (field :: rest)) ++ " \x7d" := rfl

theorem render_array (items : TypeTree) : (array items).render
    = if items.needsParens then "(" ++ items.render ++ ")[]" else items.render ++ "[]" := rfl

theorem render_array_of_needsParens {items : TypeTree} (h : items.needsParens = true) :
    (array items).render = "(" ++ items.render ++ ")" ++ "[]" := by
  rw [render_array, if_pos h]
  simp only [String.append_assoc]
  rfl

theorem render_array_of_not_needsParens {items : TypeTree} (h : items.needsParens = false) :
    (array items).render = items.render ++ "[]" := by
  rw [render_array, if_neg (by simp [h])]

end TypeTree

namespace Text.KeptByRendering

open TypeTree (renderParts renderFields)

variable {P : String → Prop} (hP : KeptByRendering P)
include hP

theorem fieldText {name type : String} (h : P type) (required : Bool) :
    P (TypeTree.fieldText name type required) := by
  have hkey : P (propertyKey name) := by
    unfold propertyKey
    split
    · exact hP.plain (isPlainChar_of_isIdentifier ‹_›)
    · exact hP.quoted name
  refine hP.append (hP.append hkey (hP.plain ?_)) h
  cases required <;> decide

theorem forall_mem_renderParts {parts : List TypeTree} (h : ∀ part ∈ parts, P part.render) :
    ∀ text ∈ renderParts parts, P text := by
  rw [TypeTree.renderParts_eq_map]
  refine List.forall_mem_map.mpr fun part hpart => ?_
  split
  · exact hP.parens (h part hpart)
  · exact h part hpart

theorem joinFields {fields : List (String × TypeTree × Bool)}
    (h : ∀ field ∈ fields, P field.2.1.render) : P (Text.joinWith "; " (renderFields fields)) := by
  refine hP.joinWith (hP.plain (by decide)) ?_
  rw [TypeTree.renderFields_eq_map]
  exact List.forall_mem_map.mpr fun field hfield => hP.fieldText (h field hfield) _

end Text.KeptByRendering

/-- What rendering keeps is true of the text of a schema's tree if it is of the names. -/
theorem TypeTree.Made.kept_render {typeName : String → String} {P : String → Prop}
    (hP : KeptByRendering P) (hnames : ∀ name, P (typeName name)) {type : TypeTree}
    (h : Made typeName type) : P type.render := by
  induction h with
  | string | number | integer | boolean | null | any | dateTime | binary =>
      exact hP.plain (by decide)
  | stringLiteral text => exact hP.quoted text
  | truth b => cases b <;> exact hP.plain (by decide)
  | numeral n => exact hP.plain (isNumeral_number n).isPlainChar
  | named name => exact hnames name
  | @array items _ ih =>
      cases hparens : items.needsParens with
      | true => exact render_array_of_needsParens hparens ▸ hP.append (hP.parens ih) hP.brackets
      | false => exact render_array_of_not_needsParens hparens ▸ hP.append ih hP.brackets
  | @object fields _ ih =>
      cases fields with
      | nil => exact hP.record (hP.plain (by decide))
      | cons field rest => exact hP.braces (hP.joinFields ih)
  | map _ ih => exact hP.record ih
  | union _ _ ih => exact hP.joinDistinct hP.bar (forall_mem_renderAll ih)
  | intersection _ _ ih => exact hP.joinDistinct (hP.plain (by decide)) (hP.forall_mem_renderParts ih)

/-! ## Type expressions -/

/-- The type expression of every schema is closed if all type names are. -/
theorem Resolver.closed_typeExpr {r : Resolver} (hnames : ∀ name, Closed (r.typeName name))
    (schema : OrRef Schema) : Closed (r.typeExpr schema) :=
  (TypeTree.made_ofSchemaOrRef schema).kept_render Text.keptByRendering_closed hnames

/-- What rendering keeps is true of type names if it is of the affixes. -/
theorem Affixes.kept_typeName {P : String → Prop} (hP : KeptByRendering P) {affixes : Affixes}
    (hbefore : P affixes.before) (hafter : P affixes.after) (name : String) :
    P (affixes.typeName name) := by
  have hpascal : P (Casings.of name).pascal := hP.plain (List.all_eq_true.mpr fun c hc =>
    Text.isPlainChar_of_isWordChar (Text.isWordChar_pascalCase _ c hc))
  exact hP.append (hP.append hbefore hpascal) hafter

theorem Affixes.closed_typeName {affixes : Affixes} (hbefore : Closed affixes.before)
    (hafter : Closed affixes.after) (name : String) : Closed (affixes.typeName name) :=
  Affixes.kept_typeName Text.keptByRendering_closed hbefore hafter name

/-! ## Null in a type -/

theorem decorateNullable_false (type : String) : decorateNullable false type = type := by
  simp [decorateNullable]

theorem decorateNullable_cases (nullable : Bool) (type : String) :
    decorateNullable nullable type = type ∨ decorateNullable nullable type = type ++ " | null" := by
  unfold decorateNullable
  split
  · exact .inl rfl
  · exact .inr rfl

/-- Null is added once at most. -/
theorem decorateNullable_idem (nullable : Bool) (type : String) :
    decorateNullable nullable (decorateNullable nullable type)
      = decorateNullable nullable type := by
  rcases decorateNullable_cases nullable type with hkept | hadded
  · rw [hkept, hkept]
  · rw [hadded, decorateNullable, String.toList_append, Text.dropEnd?_eq_some_iff.mpr rfl]
    simp

/-- Adding null keeps a type expression closed. -/
theorem closed_decorateNullable {type : String} (h : Closed type) (nullable : Bool) :
    Closed (decorateNullable nullable type) := by
  rcases decorateNullable_cases nullable type with hkept | hadded
  · rw [hkept]
    exact h
  · rw [hadded]
    exact h.append (by decide)

end ApiRoutes
