import ApiRoutes.Proofs.Types.SchemaTrees

/-!
# Compositions of one member

A schema that is nothing but the composition of one member has the type of that member
(`ofSchema_allOf_of_isEmpty`, `ofSchema_allOf_ref`), with one exception. Of a member with properties
only these count, whatever else it says (`ofSchema_allOf_of_properties`): it may allow null, list
alternatives, be a composition itself, or have another type, and all this is left out. So such a
composition has the type of its member exactly when there is nothing to leave out, which is when the
member's own type is the object of its properties (`ofSchema_eq_object_iff`).
-/

namespace ApiRoutes

/-- A schema that says no more about its type than that it is an object. -/
structure Schema.IsPlainObject (schema : Schema) : Prop where
  schemaType : schema.schemaType = none ∨ schema.schemaType = some (.single .object)
    ∨ schema.schemaType = some (.multiple [.object])
  nullable : schema.nullable ≠ some true
  allOf : schema.allOf = []
  oneOf : schema.oneOf = []
  anyOf : schema.anyOf = []
  enumValues : schema.enumValues = []
  constValue : schema.constValue = none

namespace TypeTree

variable {typeName : String → String}

/-! ## The composition -/

theorem ofSchema_allOf_ref (path : String) :
    ofSchema typeName { allOf := [.ref path] } = ofSchemaOrRef typeName (.ref path) := rfl

theorem ofSchema_allOf_of_isEmpty {member : Schema} (h : member.properties = []) :
    ofSchema typeName { allOf := [.inline member] } = ofSchema typeName member := by
  show (if member.properties.isEmpty then ofSchema typeName member
    else ofOwnProperties typeName member) = ofSchema typeName member
  rw [h]
  rfl

/-- Of a member with properties only these count. -/
theorem ofSchema_allOf_of_properties {member : Schema} (h : member.properties ≠ []) :
    ofSchema typeName { allOf := [.inline member] }
      = object (ofProperties typeName member.required member.properties) := by
  show (if member.properties.isEmpty then ofSchema typeName member
    else ofOwnProperties typeName member) = _
  rw [if_neg (by simpa using h)]
  cases member
  rfl

/-! ## Types that are objects -/

/-- Whether it is a type of properties. -/
def isObject : TypeTree → Bool
  | object _ => true
  | _ => false

theorem isObject_withNull (type : TypeTree) : type.withNull.isObject = false := by
  unfold withNull
  split
  · rfl
  · split <;> rfl
  · rfl

theorem isObject_of_ofLiteral? {value : Content} {type : TypeTree}
    (h : ofLiteral? value = some type) : type.isObject = false := by
  cases value with
  | null | bool _ | number _ | text _ => cases h; rfl
  | list _ | record _ => cases h

theorem isObject_ofEnum (values : List Content) : (ofEnum values).isObject = false := by
  unfold ofEnum
  split
  · rfl
  · rename_i variant hone
    obtain ⟨value, -, hvalue⟩ :=
      List.mem_filterMap.mp (hone ▸ List.mem_singleton_self variant)
    exact isObject_of_ofLiteral? hvalue
  · rfl

theorem isObject_ofConst (value : Content) : (ofConst value).isObject = false := by
  unfold ofConst
  cases hvalue : ofLiteral? value with
  | none => rfl
  | some type => exact isObject_of_ofLiteral? hvalue

theorem isObject_ofType {items : TypeTree} (format : Option String)
    (fields : List (String × TypeTree × Bool)) {type : SchemaType} :
    (ofType format (array items) (object fields) type).isObject = true ↔ type = .object := by
  cases type with
  | string =>
      rw [ofType]
      unfold ofFormat
      split <;> simp [isObject]
  | number | integer | boolean | array | object | null | file => simp [ofType, isObject]

/-- Of several declared types one alone counts. -/
theorem isObject_ofTypes {items : TypeTree} (format : Option String)
    (fields : List (String × TypeTree × Bool)) {types : List SchemaType} :
    (ofTypes format (array items) (object fields) types).isObject = true ↔ types = [.object] := by
  constructor
  · intro h
    unfold ofTypes at h
    extract_lets plain at h
    split at h
    · cases h
    · rename_i variant hone
      cases hnull : types.contains .null with
      | true =>
          -- then null is the only variant
          rw [hnull, if_pos rfl] at hone
          obtain ⟨-, hvariant⟩ := List.append_eq_singleton_iff.mp hone |>.resolve_right (by simp)
          cases List.singleton_inj.mp hvariant
          cases h
      | false =>
          rw [hnull, if_neg (by decide), List.append_nil] at hone
          have hall : types.filter (· ≠ .null) = types := List.filter_eq_self.mpr fun type htype => by
            simp only [ne_eq, decide_not, Bool.not_eq_eq_eq_not, Bool.not_true,
              decide_eq_false_iff_not]
            rintro rfl
            rw [List.contains_iff_mem.mpr htype] at hnull
            cases hnull
          simp only [plain] at hone
          rw [hall] at hone
          obtain ⟨type, rfl, rfl⟩ := List.map_eq_singleton_iff.mp hone
          rw [(isObject_ofType format fields).mp h]
    · cases h
  · rintro rfl
    rfl

/-- A schema with properties has the type of these alone exactly when it says no more about its
type. -/
theorem ofSchema_eq_object_iff {schema : Schema} (hproperties : schema.properties ≠ []) :
    ofSchema typeName schema
        = object (ofProperties typeName schema.required schema.properties)
      ↔ schema.IsPlainObject := by
  cases schema with
  | mk schemaType format _ _ _ nullable properties required additional items allOf oneOf anyOf _
      enumValues constValue _ _ _ =>
  have hisEmpty : properties.isEmpty = false := by simpa using hproperties
  constructor
  · intro h
    have hobject := congrArg isObject h
    unfold ofSchema at hobject
    extract_lets array object own base at hobject
    have hfields : object = .object (ofProperties typeName required properties) := by
      simp only [object, hisEmpty]
      rfl
    have hnullable : nullable ≠ some true := by
      rintro rfl
      rw [if_pos rfl, isObject_withNull] at hobject
      cases hobject
    rw [if_neg hnullable] at hobject
    simp only [base, hfields] at hobject
    -- each keyword that counts before the type gives something else
    split at hobject
    · cases hobject
    rename_i honeOf
    split at hobject
    · cases hobject
    rename_i hanyOf
    split at hobject
    · rename_i hallOf
      have hmembers : ofMembers typeName allOf ≠ [] := ofMembers_ne_nil hallOf
      split at hobject
      · rename_i part hpart
        simp only [own, hisEmpty] at hpart
        simp [List.append_eq_singleton_iff, hmembers] at hpart
      · cases hobject
    rename_i hallOf
    split at hobject
    · rw [isObject_ofEnum] at hobject
      cases hobject
    rename_i henum
    have hdeclared : constValue = none ∧ (schemaType = none ∨ schemaType = some (.single .object)
        ∨ schemaType = some (.multiple [.object])) := by
      split at hobject
      · rw [isObject_ofConst] at hobject
        cases hobject
      · exact ⟨rfl, .inr (.inl (by rw [(isObject_ofType _ _).mp hobject]))⟩
      · exact ⟨rfl, .inr (.inr (by rw [(isObject_ofTypes _ _).mp hobject]))⟩
      · exact ⟨rfl, .inl rfl⟩
    exact ⟨hdeclared.2, hnullable, by simpa using hallOf, by simpa using honeOf,
      by simpa using hanyOf, by simpa using henum, hdeclared.1⟩
  · rintro ⟨htype, hnullable, rfl, rfl, rfl, rfl, rfl⟩
    unfold ofSchema
    rw [if_neg hnullable]
    rcases htype with rfl | rfl | rfl <;> simp [hisEmpty, ofType, ofTypes]

/-- **Compositions of one member.** A schema that is nothing but the composition of one member has
the type of the member exactly when the member is a reference, has no properties, or says no more
than that it is an object with its properties. The composition of a member with properties has the
type of an object with these in any case. -/
theorem composition_eq_member_iff (typeName : String → String) (member : OrRef Schema) :
    (ofSchema typeName { allOf := [member] } = ofSchemaOrRef typeName member ↔
      ∀ schema, member = .inline schema → schema.properties = [] ∨ schema.IsPlainObject)
    ∧ ∀ schema, member = .inline schema → schema.properties ≠ [] →
      ofSchema typeName { allOf := [member] }
        = object (ofProperties typeName schema.required schema.properties) := by
  refine ⟨?_, fun schema hschema hproperties => hschema ▸ ofSchema_allOf_of_properties hproperties⟩
  cases member with
  | ref path => exact iff_of_true (ofSchema_allOf_ref path) fun schema hschema => nomatch hschema
  | inline member =>
      simp only [OrRef.inline.injEq, forall_eq']
      show _ = ofSchema typeName member ↔ _
      by_cases hproperties : member.properties = []
      · exact iff_of_true (ofSchema_allOf_of_isEmpty hproperties) (.inl hproperties)
      · rw [ofSchema_allOf_of_properties hproperties, eq_comm,
          ofSchema_eq_object_iff hproperties, or_iff_right hproperties]

/-- A pet, or null. -/
def petOrNull : Schema :=
  { Schema.object [("name", .inline .string)] [] with nullable := some true }

/-- The composition of this one member is a pet, and not null. -/
theorem composition_loses_null :
    (ofSchema id { allOf := [.inline petOrNull] }).render = "\x7b name?: string \x7d"
      ∧ (ofSchemaOrRef id (.inline petOrNull)).render = "\x7b name?: string \x7d | null"
      ∧ ofSchema id { allOf := [.inline petOrNull] } ≠ ofSchemaOrRef id (.inline petOrNull) := by
  refine ⟨by decide +kernel, by decide +kernel, fun h => ?_⟩
  exact absurd (congrArg isUnion h) (by decide)

end TypeTree

end ApiRoutes
