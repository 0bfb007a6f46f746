import ApiRoutes.Proofs.Data.Tables
import Mathlib.Data.List.Dedup
import Mathlib.Data.List.Induction

/-!
# First and last occurrences

Elements of a list that share a key stand for one thing, of which one occurrence counts: the first
(`IsFirst`) or the last (`IsLast`). A table that is written entry by entry has its keys in the order
of their first occurrences (`keys_ofList`), each with what the last occurrence writes
(`mem_ofList_iff`). What is only added where nothing of the key is there comes in the order of first
occurrences too (`firstNew`).

Last occurrences are followed along a list that grows at its end (`isLast_concat`), as the list of what
is written grows.
-/

namespace ApiRoutes

section

variable {α β κ : Type}

/-- No element before this one has its key. -/
def IsFirst (key : α → κ) (xs : List α) (x : α) : Prop :=
  ∃ before after, xs = before ++ x :: after ∧ ∀ y ∈ before, key y ≠ key x

/-- No element after this one has its key. -/
def IsLast (key : α → κ) (xs : List α) (x : α) : Prop :=
  ∃ before after, xs = before ++ x :: after ∧ ∀ y ∈ after, key y ≠ key x

variable {key : α → κ} {xs : List α} {x y : α}

theorem IsFirst.mem (h : IsFirst key xs x) : x ∈ xs := by
  obtain ⟨before, after, rfl, -⟩ := h
  exact List.mem_append_right _ List.mem_cons_self

theorem isFirst_cons_self : IsFirst key (x :: xs) x := ⟨[], xs, rfl, List.forall_mem_nil _⟩

theorem IsFirst.cons (h : IsFirst key xs x) (hne : key y ≠ key x) : IsFirst key (y :: xs) x := by
  obtain ⟨before, after, rfl, hbefore⟩ := h
  exact ⟨y :: before, after, rfl, List.forall_mem_cons.mpr ⟨hne, hbefore⟩⟩

theorem IsLast.mem (h : IsLast key xs x) : x ∈ xs := by
  obtain ⟨before, after, rfl, -⟩ := h
  exact List.mem_append_right _ List.mem_cons_self

/-- What comes before does not count. -/
theorem IsLast.append_left (h : IsLast key xs x) (earlier : List α) :
    IsLast key (earlier ++ xs) x := by
  obtain ⟨before, after, rfl, hafter⟩ := h
  exact ⟨earlier ++ before, after, (List.append_assoc _ _ _).symm, hafter⟩

/-- What is last among those with its key is so among fewer. -/
theorem IsLast.of_key {γ : Type} {other : α → γ} (h : IsLast key xs x)
    (hkey : ∀ y, other y = other x → key y = key x) : IsLast other xs x := by
  obtain ⟨before, after, rfl, hafter⟩ := h
  exact ⟨before, after, rfl, fun y hy heq => hafter y hy (hkey y heq)⟩

theorem not_isLast_nil : ¬ IsLast key [] x := fun h => nomatch h.mem

/-- The element at the end is a last one, and takes this from those with its key. -/
theorem isLast_concat : IsLast key (xs ++ [y]) x ↔ x = y ∨ IsLast key xs x ∧ key y ≠ key x := by
  constructor
  · rintro ⟨before, after, heq, hafter⟩
    rcases List.eq_nil_or_concat after with rfl | ⟨rest, z, rfl⟩
    · exact .inl (List.singleton_inj.mp (List.append_inj_right' heq rfl)).symm
    · rw [List.concat_eq_append, ← List.cons_append, ← List.append_assoc] at heq
      obtain ⟨hxs, hz⟩ := List.append_inj' heq rfl
      obtain rfl := List.singleton_inj.mp hz
      rw [List.concat_eq_append] at hafter
      exact .inr ⟨⟨before, rest, hxs, fun w hw => hafter w (List.mem_append_left _ hw)⟩,
        hafter y (List.mem_append_right _ (List.mem_singleton_self y))⟩
  · rintro (rfl | ⟨⟨before, after, rfl, hafter⟩, hne⟩)
    · exact ⟨xs, [], rfl, List.forall_mem_nil _⟩
    · refine ⟨before, after ++ [y], by simp, fun w hw => ?_⟩
      rcases List.mem_append.mp hw with hold | hnew
      · exact hafter w hold
      · exact List.mem_singleton.mp hnew ▸ hne

/-- Each key has at most one. -/
theorem IsLast.unique (hx : IsLast key xs x) (hy : IsLast key xs y) (h : key x = key y) : x = y := by
  induction xs using List.reverseRecOn with
  | nil => exact (not_isLast_nil hx).elim
  | append_singleton xs z ih =>
      rcases isLast_concat.mp hx with rfl | ⟨hx, hxz⟩ <;>
        rcases isLast_concat.mp hy with rfl | ⟨hy, hyz⟩
      · rfl
      · exact absurd h hyz
      · exact absurd h.symm hxz
      · exact ih hx hy

/-- The last occurrences among the images, the images having a key that the elements show. -/
theorem isLast_filterMap {f : α → Option β} {key : β → κ} {b : β} :
    IsLast key (xs.filterMap f) b ↔ ∃ a, IsLast (fun a => (f a).map key) xs a ∧ f a = some b := by
  induction xs using List.reverseRecOn with
  | nil => exact iff_of_false not_isLast_nil fun ⟨_, h, _⟩ => not_isLast_nil h
  | append_singleton xs y ih =>
      simp only [isLast_concat]
      rw [List.filterMap_append]
      cases hy : f y with
      | none =>
          simp only [List.filterMap_cons, hy, List.filterMap_nil, List.append_nil, ih, Option.map_none]
          constructor
          · rintro ⟨a, hlast, ha⟩
            exact ⟨a, .inr ⟨hlast, by simp [ha]⟩, ha⟩
          · rintro ⟨a, rfl | ⟨hlast, -⟩, ha⟩
            · exact nomatch hy.symm.trans ha
            · exact ⟨a, hlast, ha⟩
      | some c =>
          simp only [List.filterMap_cons, hy, List.filterMap_nil, isLast_concat, ih, Option.map_some]
          constructor
          · rintro (rfl | ⟨⟨a, hlast, ha⟩, hne⟩)
            · exact ⟨y, .inl rfl, hy⟩
            · exact ⟨a, .inr ⟨hlast, by simpa [ha] using hne⟩, ha⟩
          · rintro ⟨a, rfl | ⟨hlast, hne⟩, ha⟩
            · exact .inl (Option.some.inj (ha.symm.trans hy))
            · exact .inr ⟨⟨a, hlast, ha⟩, by simpa [ha] using hne⟩

theorem isLast_map {f : α → β} {key : β → κ} {b : β} :
    IsLast key (xs.map f) b ↔ ∃ a, IsLast (fun a => key (f a)) xs a ∧ f a = b := by
  rw [← List.filterMap_eq_map, isLast_filterMap]
  simp [IsLast]

end

/-! ## Distinct elements -/

namespace Text

variable {α : Type} [DecidableEq α]

theorem distinct_concat (xs : List α) (x : α) : distinct (xs ++ [x]) = addNew (distinct xs) x := by
  rw [distinct, List.foldl_append]
  rfl

/-- Added to what is seen are the distinct elements that are not. -/
theorem foldl_addNew_eq (xs seen : List α) :
    xs.foldl addNew seen = seen ++ (distinct xs).filter (· ∉ seen) := by
  induction xs using List.reverseRecOn with
  | nil => exact (List.append_nil seen).symm
  | append_singleton xs x ih =>
      rw [List.foldl_append, ih, distinct_concat, List.foldl_cons, List.foldl_nil]
      by_cases hseen : x ∈ seen <;> by_cases hthere : x ∈ distinct xs <;>
        simp [addNew, hseen, hthere]

/-- Repeats do not matter to what is found first. -/
theorem find?_distinct (p : α → Bool) (xs : List α) : (distinct xs).find? p = xs.find? p := by
  induction xs using List.reverseRecOn with
  | nil => rfl
  | append_singleton xs x ih =>
      rw [distinct_concat, addNew, List.find?_append]
      split
      · rename_i hmem
        rw [ih]
        cases hfound : xs.find? p with
        | some y => rfl
        | none =>
            have hx : p x = false := by
              simpa using List.find?_eq_none.mp hfound x (mem_distinct.mp hmem)
            simp [hx]
      · rw [List.find?_append, ih]

/-- Leaving out repeats shortens a list exactly if it has some. -/
theorem length_distinct_eq_iff {xs : List α} : (distinct xs).length = xs.length ↔ xs.Nodup := by
  have hperm : (distinct xs).Perm xs.dedup :=
    (List.perm_ext_iff_of_nodup (nodup_distinct xs) (List.nodup_dedup xs)).mpr fun x => by simp
  rw [hperm.length_eq]
  constructor
  · intro h
    exact List.dedup_eq_self.mp ((List.dedup_sublist xs).eq_of_length h)
  · exact fun h => congrArg List.length h.dedup

end Text

section

variable {α κ : Type} [DecidableEq κ]

/-- The elements whose key is neither among those seen nor that of an element before. -/
def firstNew (key : α → κ) (seen : List κ) : List α → List α
  | [] => []
  | x :: xs =>
    if key x ∈ seen then firstNew key seen xs else x :: firstNew key (seen ++ [key x]) xs

variable {key : α → κ}

theorem map_key_firstNew (key : α → κ) (seen : List κ) (xs : List α) :
    (firstNew key seen xs).map key = (Text.distinct (xs.map key)).filter (· ∉ seen) := by
  have hall : ∀ (xs : List α) (seen : List κ),
      seen ++ (firstNew key seen xs).map key = (xs.map key).foldl Text.addNew seen := by
    intro xs
    induction xs with
    | nil => exact fun seen => List.append_nil seen
    | cons x xs ih =>
        intro seen
        rw [List.map_cons, List.foldl_cons, firstNew, Text.addNew]
        split
        · exact ih seen
        · rw [← ih, List.map_cons, List.append_assoc, List.singleton_append]
  have h := hall xs seen
  rw [Text.foldl_addNew_eq] at h
  exact List.append_cancel_left h

theorem key_notMem_of_mem_firstNew {x : α} {xs : List α} {seen : List κ}
    (h : x ∈ firstNew key seen xs) : key x ∉ seen := by
  have hkey := List.mem_map_of_mem (f := key) h
  rw [map_key_firstNew] at hkey
  exact of_decide_eq_true (List.mem_filter.mp hkey).2

theorem isFirst_of_mem_firstNew {x : α} {xs : List α} {seen : List κ}
    (h : x ∈ firstNew key seen xs) : IsFirst key xs x := by
  induction xs generalizing seen with
  | nil => exact nomatch h
  | cons y ys ih =>
      rw [firstNew] at h
      split at h
      · rename_i hseen
        exact (ih h).cons fun heq => key_notMem_of_mem_firstNew h (heq ▸ hseen)
      · rcases List.mem_cons.mp h with rfl | hrest
        · exact isFirst_cons_self
        · exact (ih hrest).cons fun heq => key_notMem_of_mem_firstNew hrest (by simp [heq])

end

/-! ## Tables -/

namespace Entries

variable {α : Type}

theorem ofList_concat (entries : List (String × α)) (entry : String × α) :
    ofList (entries ++ [entry]) = (ofList entries).insert entry.1 entry.2 := by
  rw [ofList, List.foldl_append]
  rfl

/-- A table has its keys in the order in which they first appear. -/
theorem keys_ofList (entries : List (String × α)) :
    (ofList entries).keys = Text.distinct (entries.map Prod.fst) := by
  induction entries using List.reverseRecOn with
  | nil => rfl
  | append_singleton entries entry ih =>
      rw [ofList_concat, keys_insert, ih, List.map_append, List.map_singleton, Text.distinct_concat]
      rfl

theorem mem_insert_iff {entries : Entries α} (h : entries.keys.Nodup) {key : String} {value : α}
    {entry : String × α} :
    entry ∈ entries.insert key value ↔ entry = (key, value) ∨ entry ∈ entries ∧ key ≠ entry.1 := by
  induction entries with
  | nil => simp [insert]
  | cons first rest ih =>
      obtain ⟨k, v⟩ := first
      obtain ⟨hk, hrest⟩ := List.nodup_cons.mp h
      rw [insert]
      split
      · rename_i heq
        subst heq
        have hne : ∀ e ∈ rest, k ≠ e.1 := fun e he heq =>
          hk (List.mem_map.mpr ⟨e, he, heq.symm⟩)
        grind
      · rename_i hne
        rw [List.mem_cons, List.mem_cons, ih hrest]
        grind

/-- The entries of a table are the last ones that were written for their keys. -/
theorem mem_ofList_iff {entries : List (String × α)} {entry : String × α} :
    entry ∈ ofList entries ↔ IsLast Prod.fst entries entry := by
  induction entries using List.reverseRecOn with
  | nil => exact iff_of_false List.not_mem_nil not_isLast_nil
  | append_singleton entries e ih =>
      rw [ofList_concat, mem_insert_iff (nodup_keys_ofList entries), ih, isLast_concat]

theorem find?_eq_some_iff {entries : Entries α} (h : entries.keys.Nodup) {key : String} {value : α} :
    entries.find? key = some value ↔ (key, value) ∈ entries := by
  induction entries with
  | nil => simp [find?]
  | cons entry rest ih =>
      obtain ⟨k, v⟩ := entry
      obtain ⟨hk, hrest⟩ := List.nodup_cons.mp h
      rw [find?_cons, List.mem_cons]
      split
      · rename_i heq
        subst heq
        have hnew : (key, value) ∉ rest := fun hmem => hk (List.mem_map.mpr ⟨_, hmem, rfl⟩)
        simp [hnew, eq_comm]
      · rename_i hne
        rw [ih hrest]
        simp [hne]

end Entries

end ApiRoutes
