import ApiRoutes.Proofs.Text.FileMarks
import ApiRoutes.Proofs.Types.Precedence

/-!
# Fields of files

Which types have a mark of a file in their text? A field does if its type is an upload, or an array,
union or intersection that begins with one (`TypeTree.ShowsFile`). Such a field holds a file
(`ShowsFile.hasFileField`). But a mark may come from other texts as well: from the name of a type that
begins like the word for an upload, from a key, or from a literal (`TypeTree.MentionsFile`).
`Made.hasFileMark_iff` says that there is nothing else.
-/

namespace ApiRoutes

open Text (BeginsWithFile HasFileMark not_beginsWithFile_cons)

namespace TypeTree

/-! ## What a type begins with -/

/-- The type that is written first in another one. -/
inductive First (first : TypeTree) : TypeTree → Prop
  | here : First first first
  | array {items : TypeTree} (hplain : items.needsParens = false) (h : First first items) :
      First first (array items)
  | variant {variant : TypeTree} {rest : List TypeTree} (h : First first variant) :
      First first (union (variant :: rest))
  | part {part : TypeTree} {rest : List TypeTree} (hplain : part.isUnion = false)
      (h : First first part) : First first (intersection (part :: rest))

/-- A type that contains uploads outside of nested objects. -/
inductive HoldsFile : TypeTree → Prop
  | binary : HoldsFile binary
  | array {items : TypeTree} (h : HoldsFile items) : HoldsFile (array items)
  | map {values : TypeTree} (h : HoldsFile values) : HoldsFile (map values)
  | union {variants : List TypeTree} {variant : TypeTree} (hvariant : variant ∈ variants)
      (h : HoldsFile variant) : HoldsFile (union variants)
  | intersection {parts : List TypeTree} {part : TypeTree} (hpart : part ∈ parts)
      (h : HoldsFile part) : HoldsFile (intersection parts)

theorem First.holdsFile {type : TypeTree} (h : First binary type) : HoldsFile type := by
  induction h with
  | here => exact .binary
  | array _ _ ih => exact .array ih
  | variant _ ih => exact .union List.mem_cons_self ih
  | part _ _ ih => exact .intersection List.mem_cons_self ih

/-- A type that begins with an upload, or with the name of one that begins with the word for it. -/
inductive BeginsLikeFile (type : TypeTree) : Prop
  | binary (h : First binary type)
  | named {name : String} (h : First (named name) type) (hbegins : BeginsWithFile name.toList)

section

variable {type : TypeTree}

/-- What is written first in the first part of a type is written first in the type. -/
theorem BeginsLikeFile.of_first {part : TypeTree} (hfirst : ∀ first, First first part → First first type)
    (h : BeginsLikeFile part) : BeginsLikeFile type := by
  cases h with
  | binary h => exact .binary (hfirst _ h)
  | named h hbegins => exact .named (hfirst _ h) hbegins

theorem beginsWithFile_array (items : TypeTree) :
    BeginsWithFile (array items).render.toList
      ↔ items.needsParens = false ∧ BeginsWithFile items.render.toList := by
  cases hparens : items.needsParens with
  | true =>
      rw [render_array_of_needsParens hparens]
      refine iff_of_false (fun h => ?_) (by simp)
      simp only [String.toList_append, List.append_assoc] at h
      exact not_beginsWithFile_cons (by decide) h
  | false =>
      rw [render_array_of_not_needsParens hparens, String.toList_append]
      exact (Text.beginsWithFile_append (c := '[') (by decide)).trans (by simp)

theorem beginsWithFile_union (variant : TypeTree) (rest : List TypeTree) :
    BeginsWithFile (union (variant :: rest)).render.toList
      ↔ BeginsWithFile variant.render.toList :=
  Text.beginsWithFile_joinDistinct (rfl : " | ".toList = ' ' :: ['|', ' ']) (by decide) _ _

theorem beginsWithFile_intersection (part : TypeTree) (rest : List TypeTree) :
    BeginsWithFile (intersection (part :: rest)).render.toList
      ↔ part.isUnion = false ∧ BeginsWithFile part.render.toList := by
  refine (Text.beginsWithFile_joinDistinct (rfl : " & ".toList = ' ' :: ['&', ' ']) (by decide)
    _ _).trans ?_
  cases hunion : part.isUnion with
  | true =>
      refine iff_of_false (fun h => ?_) (by simp)
      rw [if_pos rfl] at h
      simp only [String.toList_append, List.append_assoc] at h
      exact not_beginsWithFile_cons (by decide) h
  | false => rw [if_neg (by decide)]; simp

/-- A type begins with the word for a file if what is written first in it does. -/
theorem First.beginsWithFile_iff {first : TypeTree} (h : First first type) :
    BeginsWithFile type.render.toList ↔ BeginsWithFile first.render.toList := by
  induction h with
  | here => rfl
  | array hplain _ ih => rw [beginsWithFile_array, and_iff_right hplain, ih]
  | variant _ ih => rw [beginsWithFile_union, ih]
  | part hplain _ ih => rw [beginsWithFile_intersection, and_iff_right hplain, ih]

variable {typeName : String → String}

/-- Only uploads and names begin with the word for a file. -/
theorem Made.beginsLikeFile (h : Made typeName type) (hbegins : BeginsWithFile type.render.toList) :
    BeginsLikeFile type := by
  induction h with
  | string | number | integer | boolean | null | any | dateTime =>
      exact absurd hbegins (by decide)
  | binary => exact .binary .here
  | stringLiteral text =>
      rw [render_stringLiteral, Text.toList_quoted] at hbegins
      exact absurd hbegins (not_beginsWithFile_cons (by decide))
  | truth b => cases b <;> exact absurd hbegins (by decide)
  | numeral n =>
      have hchars := List.all_eq_true.mp (isNumeral_number n)
      have hbegins : BeginsWithFile (JsonText.number n).toList := hbegins
      cases hnumber : (JsonText.number n).toList with
      | nil => exact absurd (hnumber ▸ hbegins) (by decide)
      | cons c cs =>
          rw [hnumber] at hbegins hchars
          refine absurd hbegins (not_beginsWithFile_cons ⟨?_, ?_⟩) <;> rintro rfl <;>
            exact absurd (hchars _ List.mem_cons_self) (by decide)
  | named name => exact .named .here hbegins
  | @array items _ ih =>
      obtain ⟨hplain, hitems⟩ := (beginsWithFile_array items).mp hbegins
      exact (ih hitems).of_first fun _ => .array hplain
  | @object fields _ _ =>
      cases fields with
      | nil => exact absurd hbegins (by decide)
      | cons field rest =>
          rw [render_object_cons] at hbegins
          simp only [String.toList_append, List.append_assoc] at hbegins
          exact absurd hbegins (not_beginsWithFile_cons (by decide))
  | map _ _ =>
      rw [render_map] at hbegins
      simp only [String.toList_append, List.append_assoc] at hbegins
      exact absurd hbegins (not_beginsWithFile_cons (by decide))
  | @union variants hne _ ih =>
      cases variants with
      | nil => exact absurd rfl hne
      | cons variant rest =>
          have hvariant := (beginsWithFile_union variant rest).mp hbegins
          exact (ih variant List.mem_cons_self hvariant).of_first fun _ => .variant
  | @intersection parts htwo _ ih =>
      cases parts with
      | nil => exact absurd htwo (by decide)
      | cons part rest =>
          obtain ⟨hplain, hpart⟩ := (beginsWithFile_intersection part rest).mp hbegins
          exact (ih part List.mem_cons_self hpart).of_first fun _ => .part hplain

theorem BeginsLikeFile.beginsWithFile (h : BeginsLikeFile type) :
    BeginsWithFile type.render.toList := by
  cases h with
  | binary h => exact h.beginsWithFile_iff.mpr (by decide)
  | named h hbegins => exact h.beginsWithFile_iff.mpr hbegins

end

/-! ## Marks -/

/-- A field of an object type that is written in a type. -/
def HasField (field : String × TypeTree × Bool) (type : TypeTree) : Prop :=
  ∃ fields, field ∈ fields ∧ Occurs (object fields) type

/-- A field's type begins with an upload. -/
def ShowsFile (type : TypeTree) : Prop := ∃ field, HasField field type ∧ First binary field.2.1

/-- A field's type contains uploads outside of nested objects. -/
def HasFileField (type : TypeTree) : Prop := ∃ field, HasField field type ∧ HoldsFile field.2.1

theorem ShowsFile.hasFileField {type : TypeTree} (h : ShowsFile type) : HasFileField type :=
  h.imp fun _ => And.imp_right First.holdsFile

/-- A text that is no upload reads like the field of one: the name of a type after the colon of a
field, or a name, a key or a literal with a colon of its own. -/
inductive MentionsFile (type : TypeTree) : Prop
  | fieldType {field : String × TypeTree × Bool} {name : String} (hfield : HasField field type)
      (hfirst : First (named name) field.2.1) (h : BeginsWithFile name.toList)
  | name {name : String} (hoccurs : Occurs (named name) type) (h : HasFileMark name.toList)
  | key {field : String × TypeTree × Bool} (hfield : HasField field type)
      (h : HasFileMark field.1.toList)
  | literal {text : String} (hoccurs : Occurs (stringLiteral text) type)
      (h : HasFileMark text.toList)

/-- A type that has a mark of a file, as its tree tells. -/
def LooksLikeFile (type : TypeTree) : Prop := ShowsFile type ∨ MentionsFile type

section

variable {part type : TypeTree}

theorem HasField.of_occurs {field : String × TypeTree × Bool} (h : HasField field part)
    (hpart : Occurs part type) : HasField field type :=
  h.imp fun _ => And.imp_right (·.trans hpart)

theorem LooksLikeFile.of_occurs (h : LooksLikeFile part) (hpart : Occurs part type) :
    LooksLikeFile type := by
  rcases h with ⟨field, hfield, hfirst⟩ | hmention
  · exact .inl ⟨field, hfield.of_occurs hpart, hfirst⟩
  · refine .inr ?_
    cases hmention with
    | fieldType hfield hfirst h => exact .fieldType (hfield.of_occurs hpart) hfirst h
    | name hoccurs h => exact .name (hoccurs.trans hpart) h
    | key hfield h => exact .key (hfield.of_occurs hpart) h
    | literal hoccurs h => exact .literal (hoccurs.trans hpart) h

/-! ### In the texts of types -/

theorem hasFileMark_array (items : TypeTree) :
    HasFileMark (array items).render.toList ↔ HasFileMark items.render.toList := by
  cases hparens : items.needsParens with
  | true =>
      have hchars : (array items).render.toList
          = '(' :: (items.render.toList ++ ')' :: ['[', ']']) := by
        rw [render_array_of_needsParens hparens]
        simp
      rw [hchars, Text.hasFileMark_cons_stop (by decide), Text.hasFileMark_append_stop (by decide)]
      exact or_iff_left (by decide)
  | false =>
      have hchars : (array items).render.toList = items.render.toList ++ '[' :: [']'] := by
        rw [render_array_of_not_needsParens hparens]
        simp
      rw [hchars, Text.hasFileMark_append_stop (by decide)]
      exact or_iff_left (by decide)

theorem hasFileMark_map (values : TypeTree) :
    HasFileMark (map values).render.toList ↔ HasFileMark values.render.toList := by
  have hchars : (map values).render.toList
      = "Record<string".toList ++ ',' :: ' ' :: (values.render.toList ++ ['>']) := by
    rw [render_map]
    simp
  rw [hchars, Text.hasFileMark_append_stop (by decide), or_iff_right (by decide),
    Text.hasFileMark_cons_blank, Text.hasFileMark_concat_stop (by decide)]

theorem hasFileMark_fieldText (name type : String) (required : Bool) :
    HasFileMark (fieldText name type required).toList
      ↔ HasFileMark name.toList ∨ BeginsWithFile type.toList ∨ HasFileMark type.toList := by
  cases required with
  | true =>
      have hchars : (fieldText name type true).toList
          = (Text.propertyKey name).toList ++ ':' :: ' ' :: type.toList := by
        simp [fieldText]
      rw [hchars, Text.hasFileMark_field, Text.hasFileMark_propertyKey]
  | false =>
      have hchars : (fieldText name type false).toList
          = ((Text.propertyKey name).toList ++ ['?']) ++ ':' :: ' ' :: type.toList := by
        simp [fieldText]
      rw [hchars, Text.hasFileMark_field, Text.hasFileMark_concat_stop (by decide),
        Text.hasFileMark_propertyKey]

theorem hasFileMark_object (fields : List (String × TypeTree × Bool)) :
    HasFileMark (object fields).render.toList ↔ ∃ field ∈ fields, HasFileMark field.1.toList
      ∨ BeginsWithFile field.2.1.render.toList ∨ HasFileMark field.2.1.render.toList := by
  cases fields with
  | nil => exact iff_of_false (by decide) (by simp)
  | cons field rest =>
      have hchars : (object (field :: rest)).render.toList = '\x7b' :: ' ' ::
          (((Text.joinWith "; " (renderFields (field :: rest))).toList ++ [' ']) ++ ['\x7d']) := by
        rw [render_object_cons]
        simp
      rw [hchars, Text.hasFileMark_cons_stop (by decide), Text.hasFileMark_cons_blank,
        Text.hasFileMark_concat_stop (by decide), Text.hasFileMark_concat_blank,
        Text.separates_semicolon.hasFileMark_joinWith, renderFields_eq_map]
      simp only [List.mem_map, exists_exists_and_eq_and, hasFileMark_fieldText]

theorem hasFileMark_union (variants : List TypeTree) :
    HasFileMark (union variants).render.toList
      ↔ ∃ variant ∈ variants, HasFileMark variant.render.toList := by
  show HasFileMark (Text.joinDistinct " | " (renderAll variants)).toList ↔ _
  rw [Text.separates_bar.hasFileMark_joinDistinct, renderAll_eq_map]
  simp only [List.mem_map, exists_exists_and_eq_and]

theorem hasFileMark_intersection (parts : List TypeTree) :
    HasFileMark (intersection parts).render.toList
      ↔ ∃ part ∈ parts, HasFileMark part.render.toList := by
  show HasFileMark (Text.joinDistinct " & " (renderParts parts)).toList ↔ _
  rw [Text.separates_and.hasFileMark_joinDistinct, renderParts_eq_map]
  simp only [List.mem_map, exists_exists_and_eq_and]
  refine exists_congr fun part => and_congr_right fun _ => ?_
  cases part.isUnion with
  | true =>
      have hchars : ("(" ++ part.render ++ ")").toList = '(' :: (part.render.toList ++ [')']) := by
        simp
      rw [if_pos rfl, hchars, Text.hasFileMark_enclosed (by decide) (by decide)]
  | false => rw [if_neg (by decide)]

/-- A mark in a part of a type is one in the type. -/
theorem Occurs.hasFileMark (h : Occurs part type) (hmark : HasFileMark part.render.toList) :
    HasFileMark type.render.toList := by
  induction h with
  | here => exact hmark
  | @array items _ ih => exact (hasFileMark_array items).mpr ih
  | @object fields field hfield _ ih =>
      exact (hasFileMark_object fields).mpr ⟨field, hfield, .inr (.inr ih)⟩
  | @map values _ ih => exact (hasFileMark_map values).mpr ih
  | @union variants variant hvariant _ ih =>
      exact (hasFileMark_union variants).mpr ⟨variant, hvariant, ih⟩
  | @intersection parts part hpart _ ih =>
      exact (hasFileMark_intersection parts).mpr ⟨part, hpart, ih⟩

theorem HasField.hasFileMark {field : String × TypeTree × Bool} (h : HasField field type)
    (hmark : HasFileMark field.1.toList ∨ BeginsWithFile field.2.1.render.toList) :
    HasFileMark type.render.toList := by
  obtain ⟨fields, hmem, hoccurs⟩ := h
  exact hoccurs.hasFileMark ((hasFileMark_object fields).mpr ⟨field, hmem, hmark.imp_right .inl⟩)

theorem LooksLikeFile.hasFileMark (h : LooksLikeFile type) : HasFileMark type.render.toList := by
  rcases h with ⟨field, hfield, hfirst⟩ | hmention
  · exact hfield.hasFileMark (.inr (BeginsLikeFile.binary hfirst).beginsWithFile)
  · cases hmention with
    | fieldType hfield hfirst h =>
        exact hfield.hasFileMark (.inr (BeginsLikeFile.named hfirst h).beginsWithFile)
    | name hoccurs h => exact hoccurs.hasFileMark h
    | key hfield h => exact hfield.hasFileMark (.inl h)
    | literal hoccurs h => exact hoccurs.hasFileMark ((Text.hasFileMark_quoted _).mpr h)

variable {typeName : String → String}

/-- Every mark in the text of a tree of a schema is one that its tree tells. -/
theorem Made.looksLikeFile (h : Made typeName type) (hmark : HasFileMark type.render.toList) :
    LooksLikeFile type := by
  induction h with
  | string | number | integer | boolean | null | any | dateTime | binary =>
      exact absurd hmark (by decide)
  | stringLiteral text => exact .inr (.literal .here ((Text.hasFileMark_quoted text).mp hmark))
  | truth b => cases b <;> exact absurd hmark (by decide)
  | numeral n =>
      have hcolon := List.all_eq_true.mp (isNumeral_number n) _ hmark.colon_mem
      exact absurd hcolon (by decide)
  | named name => exact .inr (.name .here hmark)
  | @array items _ ih => exact (ih ((hasFileMark_array items).mp hmark)).of_occurs (.array .here)
  | @object fields hfields ih =>
      obtain ⟨field, hfield, hkey | hbegins | hinner⟩ := (hasFileMark_object fields).mp hmark
      · exact .inr (.key ⟨fields, hfield, .here⟩ hkey)
      · cases (hfields field hfield).beginsLikeFile hbegins with
        | binary hfirst => exact .inl ⟨field, ⟨fields, hfield, .here⟩, hfirst⟩
        | named hfirst h => exact .inr (.fieldType ⟨fields, hfield, .here⟩ hfirst h)
      · exact (ih field hfield hinner).of_occurs (.object hfield .here)
  | @map values _ ih => exact (ih ((hasFileMark_map values).mp hmark)).of_occurs (.map .here)
  | @union variants _ _ ih =>
      obtain ⟨variant, hvariant, hinner⟩ := (hasFileMark_union variants).mp hmark
      exact (ih variant hvariant hinner).of_occurs (.union hvariant .here)
  | @intersection parts _ _ ih =>
      obtain ⟨part, hpart, hinner⟩ := (hasFileMark_intersection parts).mp hmark
      exact (ih part hpart hinner).of_occurs (.intersection hpart .here)

theorem Made.hasFileMark_iff (h : Made typeName type) :
    HasFileMark type.render.toList ↔ LooksLikeFile type :=
  ⟨h.looksLikeFile, LooksLikeFile.hasFileMark⟩

end

end TypeTree

end ApiRoutes
