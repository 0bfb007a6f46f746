import ApiRoutes.Document.Write
import ApiRoutes.Proofs.Data.Fields

/-!
# Schemas that are read back

What is read as a schema is written and read again as the same schema (`Schema.read_write`). Three
things of a schema need care: its free-form values have to be in the form in which they are read, its
tables must not have a key twice, and its subschemas have to be read back themselves
(`Schema.Settled`). A schema of this kind is read back (`Schema.Settled.read_write`), and reading
gives no other schemas (`Schema.settled_of_read`).

Whether there is a reference or a schema is decided by the record alone: no schema has a field that is
called like a reference's (`referencePath?_ofFields`).
-/

namespace ApiRoutes

open Content (present listValue tableValue ofFields)

/-! ## References -/

theorem Slots.ofEntries?_of_unknown {ε : Type} {fields : List Field} {entries : Entries ε}
    (h : ∀ key ∈ entries.keys, key ∉ fields.map (·.name)) :
    ofEntries? fields (entries.map fun (k, v) => (.name k, v)) = some [] := by
  induction entries with
  | nil => rfl
  | cons entry rest ih =>
      obtain ⟨key, value⟩ := entry
      have hfind : fields.find? (·.name = key) = none := by
        rw [List.find?_eq_none]
        intro field hfield heq
        exact h key List.mem_cons_self (List.mem_map.mpr ⟨field, hfield, by simpa using heq⟩)
      have hfield : fieldOf? fields (.name key) = some none := congrArg some hfind
      rw [List.map_cons, ofEntries?_cons, hfield, ih fun k hk => h k (List.mem_cons_of_mem _ hk)]

theorem referencePath?_ofFields {entries : Entries Content} (h : "$ref" ∉ entries.keys) :
    referencePath? (ofFields entries) = none := by
  obtain ⟨below, hbelow, hval⟩ := Content.recordBelow?_ofFields entries
  have hunknown : ∀ key ∈ entries.keys, key ∉ [(⟨"$ref", false⟩ : Field)].map (·.name) := by
    intro key hkey hmem
    obtain rfl := List.mem_singleton.mp hmem
    exact h hkey
  have hplain := Slots.ofEntries?_of_unknown hunknown
  rw [← hval, Slots.ofEntries?_map] at hplain
  obtain ⟨slots, hslots, hnil⟩ := Option.map_eq_some_iff.mp hplain
  obtain rfl : slots = [] := List.map_eq_nil_iff.mp hnil
  have hfields : (ofFields entries).recordFields? [⟨"$ref", false⟩] = some [] := by
    unfold Content.recordFields?
    rw [hbelow]
    exact hslots
  unfold referencePath?
  rw [hfields]
  rfl

theorem referencePath?_present {contents : Entries (Option Content)}
    (h : "$ref" ∉ contents.keys) : referencePath? (ofFields (present contents)) = none :=
  referencePath?_ofFields fun hmem => h ((Content.keys_present_sublist contents).subset hmem)

/-- What was read as a reference or a thing is read back, if the thing is and is not written like a
reference. -/
theorem OrRef.read_write {α : Type} {read : Content → Option α} {write : α → Content} {c : Content}
    {x : OrRef α} (h : OrRef.read read c = some x)
    (hback : ∀ a, read c = some a → read (write a) = some a)
    (hinline : ∀ a, referencePath? (write a) = none) :
    OrRef.read read (OrRef.write write x) = some x := by
  cases x with
  | ref path => rfl
  | inline a =>
      have hread : read c = some a := by
        unfold OrRef.read OrRef.choose at h
        split at h
        · cases h
        · obtain ⟨a', hread, heq⟩ := Option.map_eq_some_iff.mp h
          cases heq
          exact hread
      unfold OrRef.read OrRef.write OrRef.choose
      rw [hinline, hback a hread]
      rfl

/-! ## Types and discriminators -/

theorem SchemaType.read_text (type : SchemaType) : SchemaType.read (.text type.name) = some type := by
  cases type <;> rfl

theorem TypeSet.read_write (types : TypeSet) : TypeSet.read types.write = some types := by
  cases types with
  | single type =>
      unfold TypeSet.read TypeSet.write
      rw [SchemaType.read_text]
  | multiple types =>
      have hmap : (types.map fun type => Content.text type.name).mapM SchemaType.read = some types :=
        mapM_map_of_forall fun type _ => SchemaType.read_text type
      show Option.map _ (List.mapM _ _) = _
      rw [hmap]
      rfl

theorem TypeSet.isNull_write (types : TypeSet) : types.write.isNull = false := by
  cases types <;> rfl

theorem Slots.Holds.types {c : Content} {slots : Slots c.Below} {fields : Entries (Option Content)}
    {name : String} (h : slots.Holds fields) {x : Option TypeSet}
    (hfind : fields.find? name = some (x.map TypeSet.write)) :
    slots.optional name (fun v => TypeSet.read v.val) = some x :=
  h.optional TypeSet.read TypeSet.write hfind fun types _ => ⟨types.read_write, types.isNull_write⟩

def Discriminator.contents (d : Discriminator) : Entries (Option Content) :=
  [("propertyName", some (.text d.propertyName)), ("mapping", tableValue Content.text d.mapping)]

theorem Discriminator.write_eq (d : Discriminator) : d.write = ofFields (present d.contents) := by
  rw [Discriminator.write, Content.tableField_eq_present, Content.singleton_eq_present,
    ← Content.present_append]
  rfl

theorem Discriminator.read_write {d : Discriminator} (h : d.mapping.keys.Nodup) :
    Discriminator.read d.write = some d := by
  obtain ⟨slots, hslots, hholds⟩ := @Content.exists_fields? fields d.contents rfl (by decide)
  have hmapping := Content.tableBelow?_ofFields h fun _ _ => (rfl : Content.text? (.text _) = _)
  rw [write_eq]
  refine bind_eq_of_eq_some hslots ?_
  refine bind_eq_of_eq_some (hholds.required Content.text? .text rfl rfl) ?_
  refine bind_eq_of_eq_some
    (hholds.table (fun v => v.tableBelow? fun w => w.val.text?) .text rfl hmapping) ?_
  rfl

theorem Discriminator.nodup_of_read {c : Content} {d : Discriminator}
    (h : Discriminator.read c = some d) : d.mapping.keys.Nodup := by
  obtain ⟨slots, hslots, h⟩ := exists_of_bind_eq_some h
  obtain ⟨propertyName, -, h⟩ := exists_of_bind_eq_some h
  obtain ⟨mapping, hmapping, h⟩ := exists_of_bind_eq_some h
  cases h
  rcases Slots.exists_of_withDefault hmapping with rfl | ⟨v, -, hread⟩
  · exact List.nodup_nil
  · exact (Content.exists_of_tableBelow? hread).1

/-! ## Schemas -/

/-- What `additionalProperties` holds, on its own. -/
def Additional.read (c : Content) : Option (Additional Schema) :=
  match c.flag? with
  | some allowed => some (.flag allowed)
  | none => (Schema.readOrRef c).map .schema

def Additional.write : Additional Schema → Content
  | .flag allowed => .bool allowed
  | .schema s => Schema.writeOrRef s

namespace Schema

/-- The fields of a schema, each with its content if it has one. -/
def contents (s : Schema) : Entries (Option Content) :=
  [("type", s.schemaType.map TypeSet.write), ("format", s.format.map Content.text),
   ("title", s.title.map Content.text), ("description", s.description.map Content.text),
   ("default", s.defaultValue.map id), ("nullable", s.nullable.map Content.bool),
   ("properties", tableValue writeOrRef s.properties), ("required", listValue Content.text s.required),
   ("additionalProperties", s.additional.map Additional.write), ("items", s.items.map writeOrRef),
   ("allOf", listValue writeOrRef s.allOf), ("oneOf", listValue writeOrRef s.oneOf),
   ("anyOf", listValue writeOrRef s.anyOf), ("discriminator", s.discriminator.map Discriminator.write),
   ("enum", listValue id s.enumValues), ("const", s.constValue.map id),
   ("readOnly", s.readOnly.map Content.bool), ("writeOnly", s.writeOnly.map Content.bool),
   ("example", s.exampleValue.map id)]

theorem writtenList_eq (name : String) (schemas : List (OrRef Schema)) :
    writtenList name (writeList schemas) = present [(name, listValue writeOrRef schemas)] := by
  have hmap : writeList schemas = schemas.map writeOrRef := by
    induction schemas with
    | nil => rfl
    | cons schema rest ih => rw [writeList, ih, List.map_cons]
  rw [hmap]
  cases schemas <;> rfl

theorem writtenTable_eq (name : String) (properties : Entries (OrRef Schema)) :
    writtenTable name (writeProperties properties)
      = present [(name, tableValue writeOrRef properties)] := by
  have hmap : writeProperties properties = properties.map fun (k, v) => (k, writeOrRef v) := by
    induction properties with
    | nil => rfl
    | cons entry rest ih => rw [writeProperties, ih, List.map_cons]
  rw [hmap]
  cases properties <;> rfl

theorem writeItems_eq (items : Option (OrRef Schema)) :
    writeItems items = present [("items", items.map writeOrRef)] := by
  cases items <;> rfl

theorem writeAdditional_eq (additional : Option (Additional Schema)) :
    writeAdditional additional
      = present [("additionalProperties", additional.map Additional.write)] := by
  rcases additional with _ | _ | _ <;> rfl

theorem write_eq (s : Schema) : s.write = ofFields (present s.contents) := by
  cases s
  rw [write]
  simp only [Content.optionalField_eq_present, Content.listField_eq_present, writtenList_eq,
    writtenTable_eq, writeItems_eq, writeAdditional_eq, ← Content.present_append, contents,
    List.cons_append, List.nil_append]

/-- What is written for a schema or a reference is read as it. -/
def Returns (schema : OrRef Schema) : Prop := readOrRef (writeOrRef schema) = some schema

theorem exists_writeOrRef (schema : OrRef Schema) :
    ∃ entries, writeOrRef schema = ofFields entries := by
  cases schema with
  | ref path => exact ⟨_, rfl⟩
  | inline schema => exact ⟨_, write_eq schema⟩

theorem isNull_writeOrRef (schema : OrRef Schema) : (writeOrRef schema).isNull = false := by
  obtain ⟨entries, heq⟩ := exists_writeOrRef schema
  rw [heq]
  rfl

theorem referencePath?_write (s : Schema) : referencePath? s.write = none := by
  rw [write_eq]
  exact referencePath?_present (by simp [contents, Entries.keys])

theorem writeOrRef_eq (schema : OrRef Schema) : writeOrRef schema = OrRef.write Schema.write schema := by
  cases schema <;> rfl

theorem returns_of_read {c : Content} {schema : OrRef Schema} (h : readOrRef c = some schema)
    (hback : ∀ s, Schema.read c = some s → Schema.read s.write = some s) : Returns schema := by
  rw [Returns, writeOrRef_eq]
  exact OrRef.read_write h hback referencePath?_write

/-- What a schema has to be like to be read back. -/
structure Settled (s : Schema) : Prop where
  defaultValue : ∀ v, s.defaultValue = some v → v.freeForm? = some v ∧ v.isNull = false
  properties : (Entries.keys s.properties).Nodup
  property : ∀ entry ∈ s.properties, Returns entry.2
  additional : ∀ schema, s.additional = some (.schema schema) → Returns schema
  items : ∀ schema, s.items = some schema → Returns schema
  allOf : ∀ schema ∈ s.allOf, Returns schema
  oneOf : ∀ schema ∈ s.oneOf, Returns schema
  anyOf : ∀ schema ∈ s.anyOf, Returns schema
  discriminator : ∀ d, s.discriminator = some d → d.mapping.keys.Nodup
  enumValues : ∀ v ∈ s.enumValues, v.freeForm? = some v
  constValue : ∀ v, s.constValue = some v → v.freeForm? = some v ∧ v.isNull = false
  exampleValue : ∀ v, s.exampleValue = some v → v.freeForm? = some v ∧ v.isNull = false

theorem additional_read_write {a : Additional Schema} (h : ∀ schema, a = .schema schema → Returns schema) :
    Additional.read a.write = some a ∧ a.write.isNull = false := by
  cases a with
  | flag allowed => exact ⟨rfl, rfl⟩
  | schema schema =>
      obtain ⟨entries, heq⟩ := exists_writeOrRef schema
      have hflag : (writeOrRef schema).flag? = none := by
        rw [heq]
        rfl
      refine ⟨?_, isNull_writeOrRef schema⟩
      unfold Additional.read Additional.write
      rw [hflag, h schema rfl]
      rfl

theorem Settled.read_write {s : Schema} (h : s.Settled) : Schema.read s.write = some s := by
  obtain ⟨slots, hslots, hholds⟩ := @Content.exists_fields? Schema.fields s.contents rfl (by decide)
  have hlist : ∀ {schemas : List (OrRef Schema)}, (∀ schema ∈ schemas, Returns schema) →
      (Content.list (schemas.map writeOrRef)).listBelow? (fun v => readOrRef v.val) = some schemas :=
    Content.listBelow?_list
  have hproperties := Content.tableBelow?_ofFields h.properties h.property
  rw [write_eq, Schema.read]
  refine bind_eq_of_eq_some hslots ?_
  refine bind_eq_of_eq_some (hholds.types rfl) ?_
  refine bind_eq_of_eq_some (hholds.text rfl) ?_
  refine bind_eq_of_eq_some (hholds.text rfl) ?_
  refine bind_eq_of_eq_some (hholds.text rfl) ?_
  refine bind_eq_of_eq_some (hholds.freeForm rfl h.defaultValue) ?_
  refine bind_eq_of_eq_some (hholds.flag rfl) ?_
  refine bind_eq_of_eq_some (hholds.table (fun v => v.tableBelow? fun w => readOrRef w.val) writeOrRef
    rfl hproperties) ?_
  refine bind_eq_of_eq_some (hholds.list Content.texts? .text rfl
    (mapM_map_of_forall fun _ _ => rfl)) ?_
  refine bind_eq_of_eq_some (hholds.optional Additional.read Additional.write rfl
    fun a ha => additional_read_write fun schema heq => h.additional schema (heq ▸ ha)) ?_
  refine bind_eq_of_eq_some (hholds.optional readOrRef writeOrRef rfl
    fun schema heq => ⟨h.items schema heq, isNull_writeOrRef schema⟩) ?_
  refine bind_eq_of_eq_some (hholds.list (fun v => v.listBelow? fun w => readOrRef w.val) writeOrRef
    rfl (hlist h.allOf)) ?_
  refine bind_eq_of_eq_some (hholds.list (fun v => v.listBelow? fun w => readOrRef w.val) writeOrRef
    rfl (hlist h.oneOf)) ?_
  refine bind_eq_of_eq_some (hholds.list (fun v => v.listBelow? fun w => readOrRef w.val) writeOrRef
    rfl (hlist h.anyOf)) ?_
  refine bind_eq_of_eq_some (hholds.optional Discriminator.read Discriminator.write rfl
    fun d hd => ⟨Discriminator.read_write (h.discriminator d hd), rfl⟩) ?_
  refine bind_eq_of_eq_some (hholds.freeForms rfl h.enumValues) ?_
  refine bind_eq_of_eq_some (hholds.freeForm rfl h.constValue) ?_
  refine bind_eq_of_eq_some (hholds.flag rfl) ?_
  refine bind_eq_of_eq_some (hholds.flag rfl) ?_
  refine bind_eq_of_eq_some (hholds.freeForm rfl h.exampleValue) ?_
  cases s
  rfl

/-- A schema that was read is settled, if the schemas inside it are read back. -/
theorem settled_of_read {c : Content} {s : Schema} (hc : c.Finite) (h : Schema.read c = some s)
    (ih : ∀ w : Content, sizeOf w < sizeOf c → w.Finite → ∀ t, Schema.read w = some t →
      Schema.read t.write = some t) : s.Settled := by
  rw [Schema.read] at h
  obtain ⟨slots, hslots, h⟩ := exists_of_bind_eq_some h
  obtain ⟨schemaType, -, h⟩ := exists_of_bind_eq_some h
  obtain ⟨format, -, h⟩ := exists_of_bind_eq_some h
  obtain ⟨title, -, h⟩ := exists_of_bind_eq_some h
  obtain ⟨description, -, h⟩ := exists_of_bind_eq_some h
  obtain ⟨defaultValue, hdefault, h⟩ := exists_of_bind_eq_some h
  obtain ⟨nullable, -, h⟩ := exists_of_bind_eq_some h
  obtain ⟨properties, hproperties, h⟩ := exists_of_bind_eq_some h
  obtain ⟨required, -, h⟩ := exists_of_bind_eq_some h
  obtain ⟨additional, hadditional, h⟩ := exists_of_bind_eq_some h
  obtain ⟨items, hitems, h⟩ := exists_of_bind_eq_some h
  obtain ⟨allOf, hallOf, h⟩ := exists_of_bind_eq_some h
  obtain ⟨oneOf, honeOf, h⟩ := exists_of_bind_eq_some h
  obtain ⟨anyOf, hanyOf, h⟩ := exists_of_bind_eq_some h
  obtain ⟨discriminator, hdiscriminator, h⟩ := exists_of_bind_eq_some h
  obtain ⟨enumValues, henum, h⟩ := exists_of_bind_eq_some h
  obtain ⟨constValue, hconst, h⟩ := exists_of_bind_eq_some h
  obtain ⟨readOnly, -, h⟩ := exists_of_bind_eq_some h
  obtain ⟨writeOnly, -, h⟩ := exists_of_bind_eq_some h
  obtain ⟨exampleValue, hexample, h⟩ := exists_of_bind_eq_some h
  cases h
  have hchild := Content.finite_of_fields? hc hslots
  -- a schema or a reference anywhere inside, in a list of them, and in the table of properties
  have hreturns : ∀ (w : Content), sizeOf w < sizeOf c → w.Finite → ∀ schema,
      readOrRef w = some schema → Returns schema :=
    fun w hsize hw schema hread => returns_of_read hread (ih w hsize hw)
  have hmembers : ∀ {name : String} {xs : List (OrRef Schema)},
      slots.withDefault name [] (fun v => v.val.listBelow? fun w => readOrRef w.val) = some xs →
        ∀ schema ∈ xs, Returns schema := by
    intro name xs hread schema hschema
    rcases Slots.exists_of_withDefault hread with rfl | ⟨v, hv, hread⟩
    · exact nomatch hschema
    · obtain ⟨w, hw, hread⟩ := Content.exists_of_listBelow? hread schema hschema
      exact hreturns w.val (w.property.trans v.property) ((hchild v hv).of_child hw) schema hread
  have htable : (Entries.keys properties).Nodup ∧ ∀ entry ∈ properties, Returns entry.2 := by
    rcases Slots.exists_of_withDefault hproperties with rfl | ⟨v, hv, hread⟩
    · exact ⟨List.nodup_nil, fun _ h => nomatch h⟩
    · obtain ⟨hnodup, hvalues⟩ := Content.exists_of_tableBelow? hread
      refine ⟨hnodup, fun entry hentry => ?_⟩
      obtain ⟨w, hw, hread⟩ := hvalues entry hentry
      exact hreturns w.val (w.property.trans v.property) ((hchild v hv).of_child hw) entry.2 hread
  constructor
  case defaultValue => exact Slots.freeForm_of_optional hchild hdefault
  case properties => exact htable.1
  case property => exact htable.2
  case additional =>
    intro schema heq
    obtain ⟨v, hv, -, hread⟩ := Slots.exists_of_optional hadditional heq
    have hread : Additional.read v.val = some (.schema schema) := hread
    unfold Additional.read at hread
    split at hread
    · cases hread
    · obtain ⟨schema', hread, heq⟩ := Option.map_eq_some_iff.mp hread
      cases heq
      exact hreturns v.val v.property (hchild v hv) schema hread
  case items =>
    intro schema heq
    obtain ⟨v, hv, -, hread⟩ := Slots.exists_of_optional hitems heq
    exact hreturns v.val v.property (hchild v hv) schema hread
  case allOf => exact hmembers hallOf
  case oneOf => exact hmembers honeOf
  case anyOf => exact hmembers hanyOf
  case discriminator =>
    intro d heq
    obtain ⟨v, -, -, hread⟩ := Slots.exists_of_optional hdiscriminator heq
    exact Discriminator.nodup_of_read hread
  case enumValues => exact Slots.freeForms_of_withDefault henum
  case constValue => exact Slots.freeForm_of_optional hchild hconst
  case exampleValue => exact Slots.freeForm_of_optional hchild hexample

/-- A schema that was read of finite data is read back. -/
theorem read_write {c : Content} {s : Schema} (hc : c.Finite) (h : Schema.read c = some s) :
    Schema.read s.write = some s :=
  (settled_of_read hc h fun w _ hw t ht => read_write hw ht).read_write
termination_by sizeOf c

end Schema

/-- An optional schema is read back. -/
theorem Slots.returns_of_optional {c : Content} {slots : Slots c.Below} {name : String}
    (hfinite : ∀ v ∈ slots.values, v.val.Finite) {x : Option (OrRef Schema)}
    (h : slots.optional name (fun v => Schema.readOrRef v.val) = some x) :
    ∀ schema, x = some schema → Schema.Returns schema := by
  intro schema heq
  obtain ⟨v, hv, -, hread⟩ := exists_of_optional h heq
  exact Schema.returns_of_read hread fun s hs => Schema.read_write (hfinite v hv) hs

theorem Slots.Holds.schema {c : Content} {slots : Slots c.Below} {fields : Entries (Option Content)}
    {name : String} (h : slots.Holds fields) {x : Option (OrRef Schema)}
    (hfind : fields.find? name = some (x.map Schema.writeOrRef))
    (hback : ∀ schema, x = some schema → Schema.Returns schema) :
    slots.optional name (fun v => Schema.readOrRef v.val) = some x :=
  h.optional Schema.readOrRef Schema.writeOrRef hfind
    fun schema heq => ⟨hback schema heq, Schema.isNull_writeOrRef schema⟩

end ApiRoutes
