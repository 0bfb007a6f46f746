import ApiRoutes.Data.Entries
import ApiRoutes.Text.Basic
import Mathlib.Data.List.Nodup

/-!
# Tables after several writes

Writing the entries of a list one after the other gives a table without repeated keys
(`nodup_keys_ofList`), and the list itself if it has none (`ofList_eq_self`). Written on top of a
table they win over what it has (`find?_extend`).
-/

namespace ApiRoutes.Entries

variable {α β : Type}

/-- The entries give the key a value, and no other one. -/
def Declares (entries : Entries α) (key : String) (value : α) : Prop :=
  (key, value) ∈ entries ∧ ∀ other, (key, other) ∈ entries → other = value

/-! ## Looking up -/

theorem find?_mapValues (f : α → β) (entries : Entries α) (key : String) :
    (entries.mapValues f).find? key = (entries.find? key).map f := by
  induction entries with
  | nil => rfl
  | cons entry rest ih =>
      obtain ⟨k, v⟩ := entry
      show find? ((k, f v) :: mapValues f rest) key = _
      rw [find?_cons, find?_cons, ih]
      split <;> rfl

theorem mem_values_of_find? {entries : Entries α} {key : String} {value : α}
    (h : entries.find? key = some value) : value ∈ entries.values := by
  induction entries with
  | nil => exact nomatch h
  | cons entry rest ih =>
      obtain ⟨k, v⟩ := entry
      rw [find?_cons] at h
      split at h
      · cases h
        exact List.mem_cons_self
      · exact List.mem_cons_of_mem _ (ih h)

theorem find?_eq_none_of_not_mem {entries : Entries α} {key : String} (h : key ∉ entries.keys) :
    entries.find? key = none := by
  induction entries with
  | nil => rfl
  | cons entry rest ih =>
      obtain ⟨k, v⟩ := entry
      obtain ⟨hne, hrest⟩ := not_or.mp (List.mem_cons.not.mp h)
      rw [find?_cons, if_neg hne, ih hrest]

/-! ## Writing one entry -/

theorem insert_of_not_mem {key : String} {entries : Entries α} (h : key ∉ entries.keys) (value : α) :
    entries.insert key value = entries ++ [(key, value)] := by
  induction entries with
  | nil => rfl
  | cons entry rest ih =>
      obtain ⟨k, v⟩ := entry
      obtain ⟨hne, hrest⟩ := not_or.mp (List.mem_cons.not.mp h)
      rw [insert, if_neg (Ne.symm hne), ih hrest, List.cons_append]

theorem insert_of_mem {key : String} {value : α} {entries : Entries α} (h : key ∈ entries.keys)
    (hsame : ∀ other, (key, other) ∈ entries → other = value) :
    entries.insert key value = entries := by
  induction entries with
  | nil => exact nomatch h
  | cons entry rest ih =>
      obtain ⟨k, v⟩ := entry
      rw [insert]
      split
      · rename_i heq
        subst heq
        rw [hsame v List.mem_cons_self]
      · rename_i hne
        have hrest : key ∈ keys rest := (List.mem_cons.mp h).resolve_left (Ne.symm hne)
        rw [ih hrest fun other hother => hsame other (List.mem_cons_of_mem _ hother)]

theorem nodup_keys_insert {entries : Entries α} (h : entries.keys.Nodup) (key : String) (value : α) :
    (entries.insert key value).keys.Nodup := by
  rw [keys_insert]
  split
  · exact h
  · rename_i hnew
    exact List.concat_eq_append ▸ h.concat hnew

theorem mem_of_mem_insert {entries : Entries α} {key : String} {value : α} {entry : String × α}
    (h : entry ∈ entries.insert key value) : entry = (key, value) ∨ entry ∈ entries := by
  induction entries with
  | nil => exact .inl (List.mem_singleton.mp h)
  | cons first rest ih =>
      obtain ⟨k, v⟩ := first
      rw [insert] at h
      split at h
      · rename_i heq
        subst heq
        exact (List.mem_cons.mp h).imp_right (List.mem_cons_of_mem _)
      · rcases List.mem_cons.mp h with rfl | hrest
        · exact .inr List.mem_cons_self
        · exact (ih hrest).imp_right (List.mem_cons_of_mem _)

/-! ## Writing several entries -/

theorem nodup_keys_extend {entries : Entries α} (h : entries.keys.Nodup) (more : Entries α) :
    (entries.extend more).keys.Nodup := by
  induction more generalizing entries with
  | nil => exact h
  | cons entry more ih => exact ih (nodup_keys_insert h entry.1 entry.2)

theorem nodup_keys_ofList (entries : List (String × α)) : (ofList entries).keys.Nodup :=
  @nodup_keys_extend α [] List.nodup_nil entries

theorem mem_of_mem_extend {entries more : Entries α} {entry : String × α}
    (h : entry ∈ entries.extend more) : entry ∈ entries ∨ entry ∈ more := by
  induction more generalizing entries with
  | nil => exact .inl h
  | cons first more ih =>
      rcases ih h with hinsert | hmore
      · rcases mem_of_mem_insert hinsert with rfl | hentries
        · exact .inr List.mem_cons_self
        · exact .inl hentries
      · exact .inr (List.mem_cons_of_mem _ hmore)

theorem mem_of_mem_ofList {entries : List (String × α)} {entry : String × α}
    (h : entry ∈ ofList entries) : entry ∈ entries :=
  (@mem_of_mem_extend α [] entries entry h).resolve_left List.not_mem_nil

theorem extend_of_nodup {entries more : Entries α} (h : (entries ++ more).keys.Nodup) :
    entries.extend more = entries ++ more := by
  induction more generalizing entries with
  | nil => exact (List.append_nil entries).symm
  | cons entry more ih =>
      obtain ⟨key, value⟩ := entry
      have hsplit : keys (entries ++ (key, value) :: more) = entries.keys ++ key :: keys more := by
        simp [keys]
      have hnew : key ∉ entries.keys := fun hmem =>
        (List.nodup_append.mp (hsplit ▸ h)).2.2 key hmem key List.mem_cons_self rfl
      have hmore : (entries ++ [(key, value)] ++ more).keys.Nodup := by
        rwa [List.append_assoc, List.singleton_append]
      show (entries.insert key value).extend more = _
      rw [insert_of_not_mem hnew, ih hmore, List.append_assoc, List.singleton_append]

/-- A list of entries without repeated keys is a table already. -/
theorem ofList_eq_self {entries : Entries α} (h : entries.keys.Nodup) : ofList entries = entries :=
  extend_of_nodup h

/-- Under equal values each key is written once, where it first appears. -/
theorem ofList_map_const (keys : List String) (value : α) :
    ofList (keys.map fun key => (key, value)) = (Text.distinct keys).map fun key => (key, value) := by
  have hstep : ∀ (seen : List String) (key : String),
      insert key value (seen.map fun key => (key, value))
        = (Text.addNew seen key).map fun key => (key, value) := by
    intro seen key
    have hkeys : Entries.keys (seen.map fun key => (key, value)) = seen := by
      simp [Entries.keys, Function.comp_def]
    unfold Text.addNew
    split
    · rename_i hmem
      refine insert_of_mem (hkeys.symm ▸ hmem) fun other hother => ?_
      obtain ⟨k, -, heq⟩ := List.mem_map.mp hother
      exact (Prod.mk.inj heq).2.symm
    · rename_i hnew
      rw [insert_of_not_mem (hkeys.symm ▸ hnew), List.map_append, List.map_singleton]
  have hall : ∀ seen : List String,
      extend (seen.map fun key => (key, value)) (keys.map fun key => (key, value))
        = (keys.foldl Text.addNew seen).map fun key => (key, value) := by
    induction keys with
    | nil => exact fun _ => rfl
    | cons key keys ih =>
        intro seen
        show extend (insert key value _) _ = _
        rw [hstep, ih, List.foldl_cons]
  exact hall []

/-! ## Looking up -/

/-- What is written to a table last is what it has. -/
theorem find?_extend {more : Entries α} {key : String} {value : α} (h : more.Declares key value)
    (entries : Entries α) : (entries.extend more).find? key = some value := by
  -- among the entries still to be written there may be none for the key, if it has its value
  have hlast : ∀ (more entries : Entries α), (∀ other, (key, other) ∈ more → other = value) →
      ((key, value) ∈ more ∨ entries.find? key = some value) →
        (entries.extend more).find? key = some value := by
    intro more
    induction more with
    | nil => exact fun entries _ h => h.resolve_left List.not_mem_nil
    | cons entry more ih =>
        obtain ⟨k, v⟩ := entry
        intro entries hall hvalue
        refine ih (entries.insert k v) (fun other hother => hall other (List.mem_cons_of_mem _ hother)) ?_
        by_cases hk : key = k
        · subst hk
          rw [hall v List.mem_cons_self, find?_insert_self]
          exact .inr rfl
        · rw [find?_insert_of_ne hk]
          refine hvalue.imp_left fun hmem => (List.mem_cons.mp hmem).resolve_left ?_
          exact fun heq => hk (Prod.mk.inj heq).1
  exact hlast more entries h.2 (.inl h.1)

theorem Declares.mapValues {entries : Entries α} {key : String} {value : α}
    (h : entries.Declares key value) (f : α → β) : (entries.mapValues f).Declares key (f value) := by
  refine ⟨List.mem_map.mpr ⟨(key, value), h.1, rfl⟩, fun other hother => ?_⟩
  obtain ⟨⟨k, v⟩, hmem, heq⟩ := List.mem_map.mp hother
  obtain ⟨rfl, rfl⟩ := Prod.mk.inj heq
  rw [h.2 v hmem]

end ApiRoutes.Entries
