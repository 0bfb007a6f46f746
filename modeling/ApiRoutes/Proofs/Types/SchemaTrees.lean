import ApiRoutes.Types.Resolver

/-!
# The trees of schemas

Not every tree of types is the tree of a schema. What one can look like is said by `TypeTree.Made`:
its literals are numbers and truth values, its names are made from those of components, a union has
at least one variant and an intersection at least two parts. `TypeTree.made_ofSchemaOrRef` goes
through the schemas once, so that what is true of all trees of schemas is an induction on `Made`.
-/

namespace ApiRoutes.TypeTree

/-- A tree as schemas have them; `typeName` makes a type's name from a component's. -/
inductive Made (typeName : String → String) : TypeTree → Prop
  | string : Made typeName string
  | number : Made typeName number
  | integer : Made typeName integer
  | boolean : Made typeName boolean
  | null : Made typeName null
  | any : Made typeName any
  | dateTime : Made typeName dateTime
  | binary : Made typeName binary
  | stringLiteral (text : String) : Made typeName (stringLiteral text)
  | truth (b : Bool) : Made typeName (literal (if b then "true" else "false"))
  | numeral (n : Decimal.Number) : Made typeName (literal (JsonText.number n))
  | named (name : String) : Made typeName (named (typeName name))
  | array {items : TypeTree} (h : Made typeName items) : Made typeName (array items)
  | object {fields : List (String × TypeTree × Bool)}
      (h : ∀ field ∈ fields, Made typeName field.2.1) : Made typeName (object fields)
  | map {values : TypeTree} (h : Made typeName values) : Made typeName (map values)
  | union {variants : List TypeTree} (hne : variants ≠ [])
      (h : ∀ variant ∈ variants, Made typeName variant) : Made typeName (union variants)
  | intersection {parts : List TypeTree} (htwo : 2 ≤ parts.length)
      (h : ∀ part ∈ parts, Made typeName part) : Made typeName (intersection parts)

section

variable {typeName : String → String}

theorem Made.of_eq_singleton {types : List TypeTree} {type : TypeTree}
    (h : ∀ type ∈ types, Made typeName type) (hone : types = [type]) : Made typeName type :=
  h type (hone ▸ List.mem_singleton_self type)

/-- Parts that are some but not one are an intersection. -/
theorem made_intersection {parts : List TypeTree} (hne : parts ≠ [])
    (hone : ∀ part, parts = [part] → False) (h : ∀ part ∈ parts, Made typeName part) :
    Made typeName (intersection parts) := by
  have hpos : 0 < parts.length := List.length_pos_iff.mpr hne
  have hlength : parts.length ≠ 1 := fun hlength =>
    (List.length_eq_one_iff.mp hlength).elim hone
  exact .intersection (by omega) h

theorem Made.withNull {type : TypeTree} (h : Made typeName type) :
    Made typeName type.withNull := by
  unfold TypeTree.withNull
  split
  · exact .null
  · split
    · exact h
    · cases h with
      | union _ hvariants =>
          exact .union (by simp) (List.forall_mem_append.mpr
            ⟨hvariants, List.forall_mem_singleton.mpr .null⟩)
  · exact .union (List.cons_ne_nil _ _)
      (List.forall_mem_cons.mpr ⟨h, List.forall_mem_singleton.mpr .null⟩)

/-! ## Literals and declared types -/

theorem made_ofLiteral? {value : Content} {type : TypeTree} (h : ofLiteral? value = some type) :
    Made typeName type := by
  cases value with
  | null => cases h; exact .null
  | bool b => cases h; exact .truth b
  | number n => cases h; exact .numeral n
  | text s => cases h; exact .stringLiteral s
  | list items => cases h
  | record entries => cases h

theorem made_ofEnum (values : List Content) : Made typeName (ofEnum values) := by
  have hall : ∀ type ∈ values.filterMap ofLiteral?, Made typeName type := by
    intro type htype
    obtain ⟨value, -, hvalue⟩ := List.mem_filterMap.mp htype
    exact made_ofLiteral? hvalue
  unfold ofEnum
  split
  · exact .string
  · exact .of_eq_singleton hall ‹_›
  · exact .union ‹_› hall

theorem made_ofConst (value : Content) : Made typeName (ofConst value) := by
  unfold ofConst
  cases hvalue : ofLiteral? value with
  | none => exact .string
  | some type => exact made_ofLiteral? hvalue

theorem made_ofFormat (format : Option String) : Made typeName (ofFormat format) := by
  unfold ofFormat
  split
  · exact .dateTime
  · exact .dateTime
  · exact .binary
  · exact .string

theorem made_ofType {array object : TypeTree} (harray : Made typeName array)
    (hobject : Made typeName object) (format : Option String) :
    ∀ type : SchemaType, Made typeName (ofType format array object type)
  | .string => made_ofFormat format
  | .number => .number
  | .integer => .integer
  | .boolean => .boolean
  | .null => .null
  | .array => harray
  | .object => hobject
  | .file => .binary

theorem made_ofTypes {array object : TypeTree} (harray : Made typeName array)
    (hobject : Made typeName object) (format : Option String) (types : List SchemaType) :
    Made typeName (ofTypes format array object types) := by
  unfold ofTypes
  extract_lets plain
  have hplain : ∀ type ∈ plain, Made typeName type := by
    intro type htype
    obtain ⟨single, -, rfl⟩ := List.mem_map.mp htype
    exact made_ofType harray hobject format single
  have hall : ∀ type ∈ plain ++ if types.contains .null then [.null] else [],
      Made typeName type := by
    refine List.forall_mem_append.mpr ⟨hplain, ?_⟩
    split
    · exact List.forall_mem_singleton.mpr .null
    · exact List.forall_mem_nil _
  split
  · exact .any
  · exact .of_eq_singleton hall ‹_›
  · exact .union ‹_› hall

/-! ## Schemas -/

theorem ofSchemas_ne_nil {schemas : List (OrRef Schema)} (h : (!schemas.isEmpty) = true) :
    ofSchemas typeName schemas ≠ [] := by
  cases schemas with
  | nil => exact absurd h (by decide)
  | cons schema rest => exact List.cons_ne_nil _ _

theorem ofMembers_ne_nil {members : List (OrRef Schema)} (h : (!members.isEmpty) = true) :
    ofMembers typeName members ≠ [] := by
  cases members with
  | nil => exact absurd h (by decide)
  | cons member rest => cases member <;> exact List.cons_ne_nil _ _

mutual

theorem made_ofSchemaOrRef : ∀ schema : OrRef Schema, Made typeName (ofSchemaOrRef typeName schema)
  | .ref _ => .named _
  | .inline schema => made_ofSchema schema

/-- The tree of a schema is as `Made` says. -/
theorem made_ofSchema : ∀ schema : Schema, Made typeName (ofSchema typeName schema)
  | { schemaType, format, nullable, properties, required, additional, items, allOf, oneOf, anyOf,
      enumValues, constValue, .. } => by
    have hitems := made_ofItems items
    have hadditional := made_ofAdditional additional
    have hproperties : Made typeName (.object (ofProperties typeName required properties)) :=
      .object (made_ofProperties required properties)
    have honeOf := made_ofSchemas oneOf
    have hanyOf := made_ofSchemas anyOf
    have hallOf := made_ofMembers allOf
    unfold ofSchema
    extract_lets array object own base
    have harray : Made typeName array := .array hitems
    have hobject : Made typeName object := by
      simp only [object]
      split
      · exact hadditional
      · exact hproperties
    have hown : ∀ part ∈ own, Made typeName part := by
      simp only [own]
      split
      · exact List.forall_mem_nil _
      · exact List.forall_mem_singleton.mpr hproperties
    -- what is tried in turn: unions, compositions, literals, declared types, and what is implied
    have hbase : Made typeName base := by
      simp only [base]
      split
      · rename_i hne
        exact .union (ofSchemas_ne_nil hne) honeOf
      · split
        · rename_i hne
          exact .union (ofSchemas_ne_nil hne) hanyOf
        · split
          · rename_i hne
            have hparts := List.forall_mem_append.mpr ⟨hallOf, hown⟩
            split
            · exact .of_eq_singleton hparts ‹_›
            · exact made_intersection
                (List.append_ne_nil_of_left_ne_nil (ofMembers_ne_nil hne) _) ‹_› hparts
          · split
            · exact made_ofEnum enumValues
            · split
              · exact made_ofConst _
              · exact made_ofType harray hobject format _
              · exact made_ofTypes harray hobject format _
              · split
                · exact hobject
                · split
                  · exact harray
                  · exact .any
    split
    · exact hbase.withNull
    · exact hbase

theorem made_ofOwnProperties :
    ∀ schema : Schema, Made typeName (ofOwnProperties typeName schema)
  | { properties, required, .. } => .object (made_ofProperties required properties)

theorem made_ofSchemas : ∀ schemas : List (OrRef Schema),
    ∀ variant ∈ ofSchemas typeName schemas, Made typeName variant
  | [] => List.forall_mem_nil _
  | schema :: rest =>
    List.forall_mem_cons.mpr ⟨made_ofSchemaOrRef schema, made_ofSchemas rest⟩

theorem made_ofMembers : ∀ members : List (OrRef Schema),
    ∀ part ∈ ofMembers typeName members, Made typeName part
  | [] => List.forall_mem_nil _
  | .ref _ :: rest => List.forall_mem_cons.mpr ⟨.named _, made_ofMembers rest⟩
  | .inline schema :: rest => by
    refine List.forall_mem_cons.mpr ⟨?_, made_ofMembers rest⟩
    split
    · exact made_ofSchema schema
    · exact made_ofOwnProperties schema

theorem made_ofProperties (required : List String) : ∀ properties : List (String × OrRef Schema),
    ∀ field ∈ ofProperties typeName required properties, Made typeName field.2.1
  | [] => List.forall_mem_nil _
  | (_, schema) :: rest =>
    List.forall_mem_cons.mpr ⟨made_ofSchemaOrRef schema, made_ofProperties required rest⟩

theorem made_ofItems : ∀ items : Option (OrRef Schema), Made typeName (ofItems typeName items)
  | none => .any
  | some schema => made_ofSchemaOrRef schema

theorem made_ofAdditional :
    ∀ additional : Option (Additional Schema), Made typeName (ofAdditional typeName additional)
  | some (.schema schema) => .map (made_ofSchemaOrRef schema)
  | some (.flag true) => .map .any
  | some (.flag false) => .object (List.forall_mem_nil _)
  | none => .object (List.forall_mem_nil _)

end

end

end ApiRoutes.TypeTree
