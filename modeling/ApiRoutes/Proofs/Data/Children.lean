import ApiRoutes.Data.Source
import ApiRoutes.Proofs.Data.FreeForm
import ApiRoutes.Proofs.Data.Tables

/-!
# What is read of data

All that is read of data is read of its children, which are the items of a list and the values of a
record (`Content.Child`): a field (`Content.child_of_fields?`), the items of a list
(`Content.exists_of_listBelow?`) and the values of a table (`Content.exists_of_tableBelow?`). So what
is true of data and all its children, like being finite, is true of whatever is read.

The same is said of nodes of any source: each value of a field, a list or a table was read of a
node (`Source.exists_of_optionalField`, `Source.exists_of_listOf`, `Source.exists_of_tableOf`).
-/

namespace ApiRoutes

variable {α β ε δ : Type}

/-! ## Reading several values -/

theorem mapM_map_of_forall {f : β → Option α} {write : α → β} {xs : List α}
    (h : ∀ x ∈ xs, f (write x) = some x) : (xs.map write).mapM f = some xs := by
  induction xs with
  | nil => rfl
  | cons x xs ih =>
      rw [List.map_cons, List.mapM_cons, h x List.mem_cons_self,
        ih fun x hx => h x (List.mem_cons_of_mem _ hx)]
      rfl

theorem exists_of_mem_mapM {f : α → Option β} {xs : List α} {ys : List β} (h : xs.mapM f = some ys)
    {y : β} (hy : y ∈ ys) : ∃ x ∈ xs, f x = some y := by
  induction xs generalizing ys with
  | nil =>
      cases h
      exact nomatch hy
  | cons x xs ih =>
      rw [List.mapM_cons] at h
      obtain ⟨z, hz, h⟩ := Option.bind_eq_some_iff.mp h
      obtain ⟨zs, hzs, h⟩ := Option.bind_eq_some_iff.mp h
      cases h
      rcases List.mem_cons.mp hy with rfl | hrest
      · exact ⟨x, List.mem_cons_self, hz⟩
      · obtain ⟨x', hx', hread⟩ := ih hzs hrest
        exact ⟨x', List.mem_cons_of_mem _ hx', hread⟩

theorem exists_of_bind_eq_some {x : Option α} {k : α → Option β} {b : β} (h : (x >>= k) = some b) :
    ∃ a, x = some a ∧ k a = some b :=
  Option.bind_eq_some_iff.mp h

theorem bind_eq_of_eq_some {x : Option α} {k : α → Option β} {a : α} {b : β} (h : x = some a)
    (hk : k a = some b) : (x >>= k) = some b :=
  Option.bind_eq_some_iff.mpr ⟨a, h, hk⟩

theorem bind_imp {x y : Option α} {k l : α → Option β} {b : β}
    (hx : ∀ a, x = some a → y = some a) (hk : ∀ a, k a = some b → l a = some b)
    (h : (x >>= k) = some b) : (y >>= l) = some b := by
  obtain ⟨a, ha, h⟩ := exists_of_bind_eq_some h
  exact bind_eq_of_eq_some (hx a ha) (hk a h)

/-! ## Children -/

namespace Content

/-- The items of a list and the values of a record. -/
inductive Child : Content → Content → Prop
  | item {v : Content} {items : List Content} (h : v ∈ items) : Child v (.list items)
  | value {key : Key} {v : Content} {entries : List (Key × Content)} (h : (key, v) ∈ entries) :
      Child v (.record entries)

theorem Finite.of_child {v c : Content} (hc : c.Finite) (h : Child v c) : v.Finite := by
  cases h with
  | item h =>
      cases hc with
      | list hitems => exact hitems v h
  | value h =>
      cases hc with
      | record hentries => exact hentries _ h

theorem child_of_itemsBelow? {c : Content} {items : List c.Below} (h : c.itemsBelow? = some items) :
    ∀ v ∈ items, Child v.val c := by
  intro v hv
  cases c with
  | list items =>
      cases h
      obtain ⟨⟨x, hx⟩, -, rfl⟩ := List.mem_map.mp hv
      exact .item hx
  | _ => cases h

theorem child_of_recordBelow? {c : Content} {entries : List (Key × c.Below)}
    (h : c.recordBelow? = some entries) : ∀ entry ∈ entries, Child entry.2.val c := by
  intro entry hentry
  cases c with
  | record entries =>
      cases h
      obtain ⟨⟨⟨k, x⟩, hx⟩, -, rfl⟩ := List.mem_map.mp hentry
      exact .value hx
  | _ => cases h

end Content

namespace Slots

/-- The field that a key of a record names: none of them where the key is unknown, and nothing where
it is no name. -/
def fieldOf? (fields : List Field) : Key → Option (Option Field)
  | .name text => some (fields.find? (·.name = text))
  | .index n => some fields[n]?
  | .other => none

theorem ofEntries?_cons (fields : List Field) (key : Key) (value : ε) (rest : List (Key × ε)) :
    ofEntries? fields ((key, value) :: rest) =
      match fieldOf? fields key, ofEntries? fields rest with
      | some none, some slots => some slots
      | some (some field), some slots =>
        if slots.keys.contains field.name then none else some ((field.name, value) :: slots)
      | _, _ => none := by
  rw [ofEntries?.eq_def]
  cases key <;> rfl

theorem mem_of_ofEntries? {fields : List Field} {entries : List (Key × ε)} {slots : Slots ε}
    (h : ofEntries? fields entries = some slots) {v : ε} (hv : v ∈ slots.values) :
    ∃ key, (key, v) ∈ entries := by
  induction entries generalizing slots with
  | nil =>
      cases h
      exact nomatch hv
  | cons entry rest ih =>
      obtain ⟨key, value⟩ := entry
      rw [ofEntries?_cons] at h
      split at h
      case h_1 slots' _ hrest =>
        cases h
        obtain ⟨k, hk⟩ := ih hrest hv
        exact ⟨k, List.mem_cons_of_mem _ hk⟩
      case h_2 field slots' _ hrest =>
        split at h
        · cases h
        · cases h
          rcases List.mem_cons.mp hv with rfl | hv
          · exact ⟨key, List.mem_cons_self⟩
          · obtain ⟨k, hk⟩ := ih hrest hv
            exact ⟨k, List.mem_cons_of_mem _ hk⟩
      case h_3 => cases h

theorem mem_of_ofList? {fields : List Field} {items : List ε} {slots : Slots ε}
    (h : ofList? fields items = some slots) {v : ε} (hv : v ∈ slots.values) : v ∈ items := by
  induction fields generalizing items slots with
  | nil =>
      cases items with
      | nil =>
          cases h
          exact nomatch hv
      | cons => cases h
  | cons field fields ih =>
      cases items with
      | nil =>
          rw [ofList?] at h
          split at h
          · exact ih h hv
          · cases h
      | cons value values =>
          rw [ofList?] at h
          obtain ⟨slots', hrest, rfl⟩ := Option.map_eq_some_iff.mp h
          rcases List.mem_cons.mp hv with rfl | hv
          · exact List.mem_cons_self
          · exact List.mem_cons_of_mem _ (ih hrest hv)

variable {c : Content} {slots : Slots c.Below} {name : String}

/-- The value of an optional field was read of one that is not null. -/
theorem exists_of_optional {read : c.Below → Option α} {x : Option α}
    (h : slots.optional name read = some x) {a : α} (ha : x = some a) :
    ∃ v ∈ slots.values, v.val.isNull = false ∧ read v = some a := by
  subst ha
  unfold Slots.optional at h
  split at h
  case h_1 => cases h
  case h_2 v hfind =>
    split at h
    case isTrue => cases h
    case isFalse hnull =>
      obtain ⟨a', hread, heq⟩ := Option.map_eq_some_iff.mp h
      cases heq
      exact ⟨v, Entries.mem_values_of_find? hfind, Bool.eq_false_iff.mpr hnull, hread⟩

theorem exists_of_withDefault {default x : α} {read : c.Below → Option α}
    (h : slots.withDefault name default read = some x) :
    x = default ∨ ∃ v ∈ slots.values, read v = some x := by
  unfold Slots.withDefault at h
  split at h
  case h_1 => exact .inl (Option.some.inj h).symm
  case h_2 v hfind => exact .inr ⟨v, Entries.mem_values_of_find? hfind, h⟩

/-- An optional free-form value is read as it is, and is not null. -/
theorem freeForm_of_optional (hfinite : ∀ v ∈ slots.values, v.val.Finite) {x : Option Content}
    (h : slots.optional name (fun v => v.val.freeForm?) = some x) :
    ∀ v, x = some v → v.freeForm? = some v ∧ v.isNull = false := by
  intro v hv
  obtain ⟨w, hw, hnull, hread⟩ := exists_of_optional h hv
  exact ⟨Content.freeForm?_of_freeForm? hread,
    (Content.isNull_of_freeForm? (hfinite w hw) hread).trans hnull⟩

theorem freeForms_of_withDefault {xs : List Content} (h : slots.withDefault name []
    (fun v => v.val.items?.bind (·.mapM Content.freeForm?)) = some xs) :
    ∀ v ∈ xs, v.freeForm? = some v := by
  intro v hv
  rcases exists_of_withDefault h with rfl | ⟨w, -, hread⟩
  · exact nomatch hv
  · obtain ⟨values, -, hread⟩ := Option.bind_eq_some_iff.mp hread
    obtain ⟨value, -, hread⟩ := exists_of_mem_mapM hread hv
    exact Content.freeForm?_of_freeForm? hread

end Slots

namespace Content

variable {c : Content}

theorem child_of_fields? {fields : List Field} {slots : Slots c.Below}
    (h : c.fields? fields = some slots) : ∀ v ∈ slots.values, Child v.val c := by
  intro v hv
  unfold fields? at h
  split at h
  case h_1 entries hentries =>
    obtain ⟨key, hmem⟩ := Slots.mem_of_ofEntries? h hv
    exact child_of_recordBelow? hentries _ hmem
  case h_2 =>
    obtain ⟨items, hitems, h⟩ := Option.bind_eq_some_iff.mp h
    exact child_of_itemsBelow? hitems v (Slots.mem_of_ofList? h hv)

theorem finite_of_fields? (hc : c.Finite) {fields : List Field} {slots : Slots c.Below}
    (h : c.fields? fields = some slots) : ∀ v ∈ slots.values, v.val.Finite :=
  fun v hv => hc.of_child (child_of_fields? h v hv)

theorem exists_of_listBelow? {read : c.Below → Option α} {xs : List α}
    (h : c.listBelow? read = some xs) : ∀ x ∈ xs, ∃ v : c.Below, Child v.val c ∧ read v = some x := by
  intro x hx
  obtain ⟨items, hitems, h⟩ := Option.bind_eq_some_iff.mp h
  obtain ⟨v, hv, hread⟩ := exists_of_mem_mapM h hx
  exact ⟨v, child_of_itemsBelow? hitems v hv, hread⟩

/-- A table has no key twice, and its values were read of children. -/
theorem exists_of_tableBelow? {read : c.Below → Option α} {table : Entries α}
    (h : c.tableBelow? read = some table) : table.keys.Nodup
      ∧ ∀ entry ∈ table, ∃ v : c.Below, Child v.val c ∧ read v = some entry.2 := by
  obtain ⟨entries, hentries, h⟩ := Option.bind_eq_some_iff.mp h
  obtain ⟨named, hnamed, h⟩ := Option.bind_eq_some_iff.mp h
  cases h
  refine ⟨Entries.nodup_keys_ofList named, fun entry hentry => ?_⟩
  obtain ⟨⟨key, v⟩, hv, hread⟩ := exists_of_mem_mapM hnamed (Entries.mem_of_mem_ofList hentry)
  obtain ⟨a, ha, rfl⟩ := Option.map_eq_some_iff.mp hread
  obtain ⟨keyed, hkeyed, hentries⟩ := Option.bind_eq_some_iff.mp hentries
  obtain ⟨⟨k, w⟩, hw, hname⟩ := exists_of_mem_mapM hentries hv
  obtain ⟨name, -, hpair⟩ := Option.map_eq_some_iff.mp hname
  cases hpair
  exact ⟨v, child_of_recordBelow? hkeyed _ hw, ha⟩

end Content

namespace Source

variable {ν : Type} [Source ν Option] {read : ν → Option α}

theorem exists_of_optionalField {slots : Slots ν} {name : String} {x : Option α}
    (h : optionalField slots name read = some x) {a : α} (ha : x = some a) :
    ∃ node, read node = some a := by
  subst ha
  unfold optionalField at h
  split at h
  case h_1 => cases h
  case h_2 v hfind =>
    obtain ⟨node?, -, h⟩ := Option.bind_eq_some_iff.mp h
    cases node? with
    | none => cases h
    | some node =>
        obtain ⟨a', hread, heq⟩ := Option.map_eq_some_iff.mp h
        cases heq
        exact ⟨node, hread⟩

omit [Source ν Option] in
theorem exists_of_withDefault {slots : Slots ν} {name : String} {default x : α}
    (h : withDefault slots name default read = some x) : x = default ∨ ∃ node, read node = some x := by
  unfold withDefault at h
  split at h
  case h_1 => exact .inl (Option.some.inj h).symm
  case h_2 v hfind => exact .inr ⟨v, h⟩

theorem exists_of_listOf {node : ν} {xs : List α} (h : listOf read node = some xs) :
    ∀ x ∈ xs, ∃ n, read n = some x := by
  intro x hx
  obtain ⟨nodes, -, h⟩ := Option.bind_eq_some_iff.mp h
  obtain ⟨n, -, hread⟩ := exists_of_mem_mapM h hx
  exact ⟨n, hread⟩

theorem exists_of_tableOf {node : ν} {table : Entries α} (h : tableOf read node = some table) :
    table.keys.Nodup ∧ ∀ entry ∈ table, ∃ n, read n = some entry.2 := by
  obtain ⟨nodes, -, h⟩ := Option.bind_eq_some_iff.mp h
  obtain ⟨named, hnamed, h⟩ := Option.bind_eq_some_iff.mp h
  cases h
  refine ⟨Entries.nodup_keys_ofList named, fun entry hentry => ?_⟩
  obtain ⟨⟨key, n⟩, -, hread⟩ := exists_of_mem_mapM hnamed (Entries.mem_of_mem_ofList hentry)
  obtain ⟨a, ha, heq⟩ := Option.bind_eq_some_iff.mp hread
  cases heq
  exact ⟨n, ha⟩

end Source

end ApiRoutes
