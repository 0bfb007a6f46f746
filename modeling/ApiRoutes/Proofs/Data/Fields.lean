import ApiRoutes.Proofs.Data.Children

/-!
# Records that are read back

A model is written as a record of those of its fields that have a value (`Content.present`). The
record is read as slots with just these fields (`Content.exists_fields?`), so each field is read back
on its own: an optional one (`Slots.Holds.optional`), one that is always there (`Slots.Holds.always`),
and a list or a table, which is left out where it is empty (`Slots.Holds.list`,
`Slots.Holds.table`).
-/

namespace ApiRoutes

variable {α β ε δ : Type}

/-! ## What is written -/

namespace Content

/-- The fields that have a value, with it. -/
def present (fields : Entries (Option Content)) : Entries Content :=
  fields.filterMap fun (name, value) => value.map (name, ·)

/-- The content of a list that is left out where it is empty. -/
def listValue (write : α → Content) : List α → Option Content
  | [] => none
  | items => some (list (items.map write))

/-- The content of a table that is left out where it is empty. -/
def tableValue (write : α → Content) : Entries α → Option Content
  | [] => none
  | entries => some (ofFields (entries.map fun (k, v) => (k, write v)))

theorem present_append (fields more : Entries (Option Content)) :
    present (fields ++ more) = present fields ++ present more :=
  List.filterMap_append

theorem optionalField_eq_present (name : String) (write : α → Content) (x : Option α) :
    optionalField name write x = present [(name, x.map write)] := by
  cases x <;> rfl

theorem listField_eq_present (name : String) (write : α → Content) (items : List α) :
    listField name write items = present [(name, listValue write items)] := by
  cases items <;> rfl

theorem tableField_eq_present (name : String) (write : α → Content) (entries : Entries α) :
    tableField name write entries = present [(name, tableValue write entries)] := by
  cases entries <;> rfl

theorem singleton_eq_present (name : String) (value : Content) :
    [(name, value)] = present [(name, some value)] :=
  rfl

theorem keys_present_sublist (fields : Entries (Option Content)) :
    (Entries.keys (present fields)).Sublist fields.keys := by
  induction fields with
  | nil => exact List.Sublist.slnil
  | cons field fields ih =>
      obtain ⟨name, value⟩ := field
      cases value with
      | none => exact ih.cons name
      | some value => exact ih.cons_cons name

theorem find?_present {fields : Entries (Option Content)} (h : fields.keys.Nodup) (name : String) :
    Entries.find? (present fields) name = (fields.find? name).join := by
  induction fields with
  | nil => rfl
  | cons field fields ih =>
      obtain ⟨k, value⟩ := field
      obtain ⟨hnew, hrest⟩ := List.nodup_cons.mp h
      rw [Entries.find?_cons]
      cases value with
      | none =>
          show Entries.find? (present fields) name = _
          split
          case isTrue heq =>
            subst heq
            exact Entries.find?_eq_none_of_not_mem fun hmem =>
              hnew ((keys_present_sublist fields).subset hmem)
          case isFalse => exact ih hrest
      | some value =>
          show Entries.find? ((k, value) :: present fields) name = _
          rw [Entries.find?_cons]
          split
          · rfl
          · exact ih hrest

end Content

/-- A record of fields that a model has, each of them once, is read as these fields. -/
theorem Slots.ofEntries?_of_nodup {fields : List Field} {entries : Entries ε}
    (hnodup : entries.keys.Nodup) (hknown : ∀ key ∈ entries.keys, key ∈ fields.map (·.name)) :
    ofEntries? fields (entries.map fun (k, v) => (.name k, v)) = some entries := by
  induction entries with
  | nil => rfl
  | cons entry rest ih =>
      obtain ⟨key, value⟩ := entry
      obtain ⟨hnew, hrest⟩ := List.nodup_cons.mp hnodup
      obtain ⟨field, hmem, hname⟩ := List.mem_map.mp (hknown key List.mem_cons_self)
      obtain ⟨found, hfound⟩ : ∃ found, fields.find? (·.name = key) = some found := by
        rw [← Option.isSome_iff_exists, List.find?_isSome]
        exact ⟨field, hmem, by simpa using hname⟩
      have hkey : found.name = key := by simpa using List.find?_some hfound
      have hfresh : ¬ (Entries.keys rest).contains found.name = true := by
        rw [hkey, List.contains_iff_mem]
        exact hnew
      have hfield : fieldOf? fields (.name key) = some (some found) := congrArg some hfound
      rw [List.map_cons, ofEntries?_cons, hfield,
        ih hrest fun k hk => hknown k (List.mem_cons_of_mem _ hk)]
      show (if _ then _ else _) = _
      rw [if_neg hfresh, hkey]

theorem Slots.ofEntries?_map (f : ε → δ) (fields : List Field) (entries : List (Key × ε)) :
    ofEntries? fields (entries.map fun (k, v) => (k, f v))
      = (ofEntries? fields entries).map (Entries.mapValues f) := by
  induction entries with
  | nil => rfl
  | cons entry rest ih =>
      obtain ⟨key, value⟩ := entry
      rw [List.map_cons, ofEntries?_cons, ofEntries?_cons, ih]
      cases ofEntries? fields rest with
      | none => rcases fieldOf? fields key with _ | _ | field <;> rfl
      | some slots =>
          rcases fieldOf? fields key with _ | _ | field
          · rfl
          · rfl
          · simp only [Option.map_some, Entries.keys_mapValues]
            split <;> rfl

/-! ## What is read back -/

namespace Source

variable {fields : Entries (Option Content)} {name : String} {read : Content → Option α}

theorem nullable_eq (read : Content → Option α) (node : Content) :
    nullable read node = if node.isNull then some none else (read node).map some := by
  have hoptional : Source.optional node = some (if node.isNull then none else some node) := rfl
  unfold nullable
  rw [hoptional]
  cases node.isNull <;> rfl

theorem optionalField_present (read : Content → Option α) (write : α → Content) {x : Option α}
    (hnodup : fields.keys.Nodup) (hfind : fields.find? name = some (x.map write))
    (hback : ∀ a, x = some a → read (write a) = some a ∧ (write a).isNull = false) :
    optionalField (Content.present fields) name read = some x := by
  unfold optionalField
  rw [Content.find?_present hnodup, hfind]
  cases x with
  | none => rfl
  | some a =>
      obtain ⟨hread, hnull⟩ := hback a rfl
      show nullable read (write a) = _
      rw [nullable_eq, hnull, hread]
      rfl

theorem withDefault_present {default x : α} {value : Option Content} (hnodup : fields.keys.Nodup)
    (hfind : fields.find? name = some value)
    (hback : value.elim (x = default) fun v => read v = some x) :
    withDefault (Content.present fields) name default read = some x := by
  unfold withDefault
  rw [Content.find?_present hnodup, hfind]
  cases value with
  | none => exact congrArg some hback.symm
  | some value => exact hback

end Source

namespace Slots

variable {c : Content} {slots : Slots c.Below} {fields : Entries (Option Content)} {name : String}

/-- The slots are those of a record with the given fields. -/
structure Holds (slots : Slots c.Below) (fields : Entries (Option Content)) : Prop where
  nodup : fields.keys.Nodup
  plain : slots.mapValues Subtype.val = Content.present fields

theorem optional_eq (slots : Slots c.Below) (name : String) (read : Content → Option α) :
    slots.optional name (fun v => read v.val)
      = Source.optionalField (slots.mapValues Subtype.val) name read := by
  unfold Slots.optional Source.optionalField
  rw [Entries.find?_mapValues]
  cases slots.find? name with
  | none => rfl
  | some v => exact (Source.nullable_eq read v.val).symm

theorem withDefault_eq (slots : Slots c.Below) (name : String) (default : α)
    (read : Content → Option α) : slots.withDefault name default (fun v => read v.val)
      = Source.withDefault (slots.mapValues Subtype.val) name default read := by
  unfold Slots.withDefault Source.withDefault
  rw [Entries.find?_mapValues]
  cases slots.find? name <;> rfl

theorem Holds.optional (h : slots.Holds fields) (read : Content → Option α) (write : α → Content)
    {x : Option α} (hfind : fields.find? name = some (x.map write))
    (hback : ∀ a, x = some a → read (write a) = some a ∧ (write a).isNull = false) :
    slots.optional name (fun v => read v.val) = some x := by
  rw [optional_eq, h.plain]
  exact Source.optionalField_present read write h.nodup hfind hback

theorem Holds.text (h : slots.Holds fields) {x : Option String}
    (hfind : fields.find? name = some (x.map Content.text)) :
    slots.optional name (fun v => v.val.text?) = some x :=
  h.optional Content.text? .text hfind fun _ _ => ⟨rfl, rfl⟩

theorem Holds.flag (h : slots.Holds fields) {x : Option Bool}
    (hfind : fields.find? name = some (x.map Content.bool)) :
    slots.optional name (fun v => v.val.flag?) = some x :=
  h.optional Content.flag? .bool hfind fun _ _ => ⟨rfl, rfl⟩

theorem Holds.freeForm (h : slots.Holds fields) {x : Option Content}
    (hfind : fields.find? name = some (x.map id))
    (hback : ∀ v, x = some v → v.freeForm? = some v ∧ v.isNull = false) :
    slots.optional name (fun v => v.val.freeForm?) = some x :=
  h.optional Content.freeForm? id hfind hback

/-- A field that is written whatever its value is. -/
theorem Holds.always (h : slots.Holds fields) (read : Content → Option α) (write : α → Content)
    {default x : α} (hfind : fields.find? name = some (some (write x)))
    (hback : read (write x) = some x) :
    slots.withDefault name default (fun v => read v.val) = some x := by
  rw [withDefault_eq, h.plain]
  exact Source.withDefault_present h.nodup hfind hback

theorem Holds.required (h : slots.Holds fields) (read : Content → Option α) (write : α → Content)
    {x : α} (hfind : fields.find? name = some (some (write x)))
    (hback : read (write x) = some x) :
    slots.required name (fun v => read v.val) = some x := by
  have hmap : (slots.find? name).map Subtype.val = some (write x) := by
    rw [← Entries.find?_mapValues, h.plain, Content.find?_present h.nodup, hfind]
    rfl
  obtain ⟨v, hv, hval⟩ := Option.map_eq_some_iff.mp hmap
  rw [Slots.required, hv]
  exact (congrArg read hval).trans hback

end Slots

namespace Source

variable {fields : Entries (Option Content)} {name : String}

/-- A list that is left out where it is empty. -/
theorem withDefault_list {read : Content → Option (List α)} {write : α → Content} {xs : List α}
    (hnodup : fields.keys.Nodup) (hfind : fields.find? name = some (Content.listValue write xs))
    (hback : read (.list (xs.map write)) = some xs) :
    withDefault (Content.present fields) name [] read = some xs := by
  refine withDefault_present hnodup hfind ?_
  cases xs with
  | nil => rfl
  | cons => exact hback

/-- A table that is left out where it is empty. -/
theorem withDefault_table {read : Content → Option (Entries α)} {write : α → Content}
    {table : Entries α} (hnodup : fields.keys.Nodup)
    (hfind : fields.find? name = some (Content.tableValue write table))
    (hback : read (Content.ofFields (table.map fun (k, v) => (k, write v))) = some table) :
    withDefault (Content.present fields) name [] read = some table := by
  refine withDefault_present hnodup hfind ?_
  cases table with
  | nil => rfl
  | cons => exact hback

end Source

namespace Slots

variable {c : Content} {slots : Slots c.Below} {fields : Entries (Option Content)} {name : String}

theorem Holds.list (h : slots.Holds fields) (read : Content → Option (List α)) (write : α → Content)
    {xs : List α} (hfind : fields.find? name = some (Content.listValue write xs))
    (hback : read (.list (xs.map write)) = some xs) :
    slots.withDefault name [] (fun v => read v.val) = some xs := by
  rw [withDefault_eq, h.plain]
  exact Source.withDefault_list h.nodup hfind hback

theorem Holds.freeForms (h : slots.Holds fields) {xs : List Content}
    (hfind : fields.find? name = some (Content.listValue id xs))
    (hback : ∀ v ∈ xs, v.freeForm? = some v) :
    slots.withDefault name [] (fun v => v.val.items?.bind (·.mapM Content.freeForm?)) = some xs :=
  h.list (fun v => v.items?.bind (·.mapM Content.freeForm?)) id hfind (mapM_map_of_forall hback)

theorem Holds.table (h : slots.Holds fields) (read : Content → Option (Entries α))
    (write : α → Content) {table : Entries α}
    (hfind : fields.find? name = some (Content.tableValue write table))
    (hback : read (Content.ofFields (table.map fun (k, v) => (k, write v))) = some table) :
    slots.withDefault name [] (fun v => read v.val) = some table := by
  rw [withDefault_eq, h.plain]
  exact Source.withDefault_table h.nodup hfind hback

end Slots

namespace Content

theorem fields_ofFields {fields : List Field} {contents : Entries (Option Content)}
    (hkeys : contents.keys = fields.map (·.name)) (hnodup : (fields.map (·.name)).Nodup) :
    Source.fields fields (ofFields (present contents)) = some (present contents) := by
  have hsub := keys_present_sublist contents
  rw [hkeys] at hsub
  exact Slots.ofEntries?_of_nodup (hsub.nodup hnodup) hsub.subset

theorem itemsBelow?_list (items : List Content) :
    ∃ below, (list items).itemsBelow? = some below ∧ below.map Subtype.val = items := by
  refine ⟨_, rfl, ?_⟩
  rw [List.map_map]
  exact List.attach_map_subtype_val items

theorem recordBelow?_record (entries : List (Key × Content)) :
    ∃ below, (record entries).recordBelow? = some below
      ∧ below.map (fun (k, v) => (k, v.val)) = entries := by
  refine ⟨_, rfl, ?_⟩
  rw [List.map_map]
  exact List.attach_map_subtype_val entries

theorem recordBelow?_ofFields (entries : Entries Content) :
    ∃ below, (ofFields entries).recordBelow? = some below
      ∧ below.map (fun (k, v) => (k, v.val)) = entries.map fun (k, v) => (.name k, v) :=
  recordBelow?_record _

/-- The record of a model's fields is read as these fields. -/
theorem exists_fields? {fields : List Field} {contents : Entries (Option Content)}
    (hkeys : contents.keys = fields.map (·.name)) (hnodup : (fields.map (·.name)).Nodup) :
    ∃ slots, (ofFields (present contents)).fields? fields = some slots ∧ slots.Holds contents := by
  obtain ⟨below, hbelow, hval⟩ := recordBelow?_ofFields (present contents)
  have hplain : Slots.ofEntries? fields _ = some _ := fields_ofFields hkeys hnodup
  rw [← hval, Slots.ofEntries?_map] at hplain
  obtain ⟨slots, hslots, hval⟩ := Option.map_eq_some_iff.mp hplain
  refine ⟨slots, ?_, hkeys ▸ hnodup, hval⟩
  unfold fields?
  rw [hbelow]
  exact hslots

theorem listBelow?_list {read : Content → Option α} {write : α → Content} {xs : List α}
    (h : ∀ x ∈ xs, read (write x) = some x) :
    (list (xs.map write)).listBelow? (fun v => read v.val) = some xs := by
  obtain ⟨below, hbelow, hval⟩ := itemsBelow?_list (xs.map write)
  unfold listBelow?
  rw [hbelow]
  show below.mapM (read ∘ Subtype.val) = _
  rw [← List.mapM_map, hval]
  exact mapM_map_of_forall h

/-- Entries whose keys are texts keep their values under these. -/
theorem exists_named {f : α → β} {keyed : List (Key × α)} {entries : Entries β}
    (h : keyed.map (fun (k, v) => (k, f v)) = entries.map fun (k, v) => (.name k, v)) :
    ∃ named : Entries α, keyed.mapM (fun (key, value) => (keyName? key).map (·, value)) = some named
      ∧ named.mapValues f = entries := by
  induction keyed generalizing entries with
  | nil => exact ⟨[], rfl, (List.map_eq_nil_iff.mp h.symm).symm⟩
  | cons entry keyed ih =>
      obtain ⟨key, value⟩ := entry
      obtain ⟨⟨name, value'⟩, rest, rfl, hhead, hrest⟩ := List.map_eq_cons_iff.mp h.symm
      obtain ⟨rfl, rfl⟩ := Prod.mk.inj hhead
      obtain ⟨named, hnamed, rfl⟩ := ih hrest.symm
      refine ⟨(name, value) :: named, ?_, rfl⟩
      rw [List.mapM_cons, hnamed]
      rfl

/-- Values that are read back are so under their keys. -/
theorem mapM_of_mapValues {read : Content → Option α} {write : α → Content} {f : β → Content}
    {below : Entries β} {table : Entries α}
    (hplain : below.mapValues f = table.map fun (k, v) => (k, write v))
    (h : ∀ entry ∈ table, read (write entry.2) = some entry.2) :
    below.mapM (fun (key, value) => (read (f value)).map (key, ·)) = some table := by
  show below.mapM ((fun entry => (read entry.2).map (entry.1, ·))
    ∘ fun entry => (entry.1, f entry.2)) = _
  rw [← List.mapM_map]
  refine (congrArg _ hplain).trans (mapM_map_of_forall fun entry hentry => ?_)
  exact congrArg (Option.map _) (h entry hentry)

theorem tableBelow?_ofFields {read : Content → Option α} {write : α → Content} {table : Entries α}
    (hnodup : table.keys.Nodup) (h : ∀ entry ∈ table, read (write entry.2) = some entry.2) :
    (ofFields (table.map fun (k, v) => (k, write v))).tableBelow? (fun v => read v.val)
      = some table := by
  obtain ⟨keyed, hkeyed, hval⟩ := recordBelow?_ofFields (table.map fun (k, v) => (k, write v))
  obtain ⟨below, hbelow, hplain⟩ := exists_named hval
  have hentries : (ofFields (table.map fun (k, v) => (k, write v))).entriesBelow? = some below := by
    unfold entriesBelow?
    rw [hkeyed]
    exact hbelow
  refine bind_eq_of_eq_some hentries (bind_eq_of_eq_some (mapM_of_mapValues hplain h) ?_)
  exact congrArg some (Entries.ofList_eq_self hnodup)

/-- A table whose values are read back is. -/
theorem tableBelow?_again {c : Content} (hc : c.Finite) {read : Content → Option α}
    {write : α → Content} (hback : ∀ w : Content, w.Finite → ∀ a, read w = some a →
      read (write a) = some a) {table : Entries α}
    (h : c.tableBelow? (fun v => read v.val) = some table) :
    (ofFields (table.map fun (k, v) => (k, write v))).tableBelow? (fun v => read v.val)
      = some table := by
  obtain ⟨hnodup, hvalues⟩ := exists_of_tableBelow? h
  refine tableBelow?_ofFields hnodup fun entry hentry => ?_
  obtain ⟨v, hv, hread⟩ := hvalues entry hentry
  exact hback v.val (hc.of_child hv) entry.2 hread

end Content

/-- A table that may be absent is read back, if its values are. -/
theorem Slots.table_of_withDefault {c : Content} {slots : Slots c.Below} {name : String}
    (hfinite : ∀ v ∈ slots.values, v.val.Finite) {read : Content → Option α} {write : α → Content}
    (hback : ∀ w : Content, w.Finite → ∀ a, read w = some a → read (write a) = some a)
    {table : Entries α}
    (h : slots.withDefault name [] (fun v => v.val.tableBelow? fun w => read w.val) = some table) :
    (Content.ofFields (table.map fun (k, v) => (k, write v))).tableBelow? (fun w => read w.val)
      = some table := by
  rcases exists_of_withDefault h with rfl | ⟨v, hv, hread⟩
  · rfl
  · exact Content.tableBelow?_again (hfinite v hv) hback hread

namespace Source

theorem listOf_list {read : Content → Option α} {write : α → Content} {xs : List α}
    (h : ∀ x ∈ xs, read (write x) = some x) : listOf read (.list (xs.map write)) = some xs :=
  mapM_map_of_forall h

theorem tableOf_ofFields {read : Content → Option α} {write : α → Content} {table : Entries α}
    (hnodup : table.keys.Nodup) (h : ∀ entry ∈ table, read (write entry.2) = some entry.2) :
    tableOf read (Content.ofFields (table.map fun (k, v) => (k, write v))) = some table := by
  have hentries : (Content.ofFields (table.map fun (k, v) => (k, write v))).entries?
      = some (table.map fun (k, v) => (k, write v)) := mapM_map_of_forall fun _ _ => rfl
  refine bind_eq_of_eq_some hentries (bind_eq_of_eq_some
    (mapM_map_of_forall fun entry hentry => bind_eq_of_eq_some (h entry hentry) rfl) ?_)
  exact congrArg some (Entries.ofList_eq_self hnodup)

theorem typed_eq (read : Content → Option α) (c : Content) : typed read c = read c := by
  show ofOption Content (read c) = read c
  cases read c <;> rfl

end Source

end ApiRoutes
