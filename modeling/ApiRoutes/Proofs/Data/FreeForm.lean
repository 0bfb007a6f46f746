import ApiRoutes.Data.Content
import Mathlib.Data.List.Induction
import Mathlib.Data.String.Basic

/-!
# Free-form values

A free-form value is kept with the keys of its records in order and none of them twice
(`sorted_sortEntries`). A value in this form is read as it is, so a value that was read is read
back (`freeForm?_of_freeForm?`). Where all numbers are finite, only null is read as null
(`isNull_of_freeForm?`).
-/

namespace ApiRoutes.Content

/-! ## Sorted tables -/

section

variable {α : Type} {entries : Entries α} {key : String} {value : α}

/-- The keys are in order, and no key is there twice. -/
def Sorted (entries : Entries α) : Prop := entries.Pairwise fun a b => a.1 < b.1

theorem mem_of_mem_insertSorted {entry : String × α} (h : entry ∈ insertSorted key value entries) :
    entry = (key, value) ∨ entry ∈ entries := by
  induction entries with
  | nil => exact .inl (List.mem_singleton.mp h)
  | cons first rest ih =>
      obtain ⟨k, v⟩ := first
      rw [insertSorted] at h
      split at h
      · exact List.mem_cons.mp h
      split at h
      · exact (List.mem_cons.mp h).imp_right (List.mem_cons_of_mem _)
      · rcases List.mem_cons.mp h with rfl | hrest
        · exact .inr List.mem_cons_self
        · exact (ih hrest).imp_right (List.mem_cons_of_mem _)

theorem Sorted.insertSorted (h : Sorted entries) (key : String) (value : α) :
    Sorted (insertSorted key value entries) := by
  induction entries with
  | nil => exact List.pairwise_singleton _ _
  | cons first rest ih =>
      obtain ⟨k, v⟩ := first
      obtain ⟨hfirst, hrest⟩ := List.pairwise_cons.mp h
      rw [Content.insertSorted]
      split
      case isTrue hlt =>
        refine List.pairwise_cons.mpr ⟨fun entry hentry => ?_, h⟩
        rcases List.mem_cons.mp hentry with rfl | hmem
        · exact hlt
        · exact lt_trans hlt (hfirst entry hmem)
      case isFalse hge =>
        split
        case isTrue heq =>
          subst heq
          exact List.pairwise_cons.mpr ⟨hfirst, hrest⟩
        case isFalse hne =>
          refine List.pairwise_cons.mpr ⟨fun entry hentry => ?_, ih hrest⟩
          rcases mem_of_mem_insertSorted hentry with rfl | hmem
          · exact lt_of_le_of_ne (not_lt.mp hge) (Ne.symm hne)
          · exact hfirst entry hmem

/-- Sorting a list of entries gives a table in order, with entries of the list only. -/
theorem sorted_sortEntries (entries : List (String × α)) :
    Sorted (sortEntries entries) ∧ ∀ entry ∈ sortEntries entries, entry ∈ entries := by
  induction entries using List.reverseRecOn with
  | nil => exact ⟨List.Pairwise.nil, fun _ h => h⟩
  | append_singleton entries last ih =>
      obtain ⟨hsorted, hmem⟩ := ih
      rw [sortEntries, List.foldl_concat]
      refine ⟨hsorted.insertSorted last.1 last.2, fun entry hentry => List.mem_append.mpr ?_⟩
      rcases mem_of_mem_insertSorted hentry with rfl | hentry
      · exact .inr List.mem_cons_self
      · exact .inl (hmem entry hentry)

theorem insertSorted_of_forall_lt (h : ∀ entry ∈ entries, entry.1 < key) (value : α) :
    insertSorted key value entries = entries ++ [(key, value)] := by
  induction entries with
  | nil => rfl
  | cons first rest ih =>
      obtain ⟨k, v⟩ := first
      have hlt : k < key := h (k, v) List.mem_cons_self
      rw [insertSorted, if_neg (lt_asymm hlt), if_neg (ne_of_gt hlt),
        ih fun entry hentry => h entry (List.mem_cons_of_mem _ hentry)]
      rfl

theorem sortEntries_of_sorted (h : Sorted entries) : sortEntries entries = entries := by
  induction entries using List.reverseRecOn with
  | nil => rfl
  | append_singleton entries last ih =>
      obtain ⟨hentries, -, hlast⟩ := List.pairwise_append.mp h
      rw [sortEntries, List.foldl_concat, ← sortEntries, ih hentries]
      exact insertSorted_of_forall_lt (fun entry hentry => hlast entry hentry last List.mem_cons_self)
        last.2

end

/-! ## Reading twice -/

/-- Entries whose values are read as they are, are. -/
theorem freeFormEntries?_of_forall {entries : List (String × Content)}
    (h : ∀ entry ∈ entries, freeForm? entry.2 = some entry.2) :
    freeFormEntries? (entries.map fun (k, v) => (.name k, v)) = some entries := by
  induction entries with
  | nil => rfl
  | cons entry entries ih =>
      obtain ⟨k, v⟩ := entry
      have hvalue : freeForm? v = some v := h (k, v) List.mem_cons_self
      rw [List.map_cons, freeFormEntries?, hvalue,
        ih fun entry hentry => h entry (List.mem_cons_of_mem _ hentry)]
      rfl

mutual

/-- What is read as a free-form value is read as it is. -/
theorem freeForm?_of_freeForm? : ∀ {c v : Content}, freeForm? c = some v → freeForm? v = some v
  | .null, _, rfl => rfl
  | .bool _, _, rfl => rfl
  | .number (.int _), _, rfl => rfl
  | .text _, _, rfl => rfl
  | .number (.float x), v, h => by
      rw [freeForm?] at h
      cases hfinite : x.isFinite with
      | true =>
          rw [hfinite] at h
          cases h
          rw [if_pos rfl, freeForm?, if_pos hfinite]
      | false =>
          rw [hfinite] at h
          cases h
          rfl
  | .list items, v, h => by
      rw [freeForm?] at h
      obtain ⟨xs, hxs, rfl⟩ := Option.map_eq_some_iff.mp h
      rw [freeForm?, freeFormItems?_of_freeFormItems? hxs]
      rfl
  | .record entries, v, h => by
      rw [freeForm?] at h
      obtain ⟨named, hnamed, rfl⟩ := Option.map_eq_some_iff.mp h
      obtain ⟨hsorted, hmem⟩ := sorted_sortEntries named
      have hvalues : ∀ entry ∈ sortEntries named, freeForm? entry.2 = some entry.2 :=
        fun entry hentry => freeForm?_of_freeFormEntries? hnamed entry (hmem entry hentry)
      rw [freeForm?, freeFormEntries?_of_forall hvalues, Option.map_some,
        sortEntries_of_sorted hsorted]

theorem freeFormItems?_of_freeFormItems? :
    ∀ {items xs : List Content}, freeFormItems? items = some xs → freeFormItems? xs = some xs
  | [], _, rfl => rfl
  | item :: items, xs, h => by
      rw [freeFormItems?] at h
      split at h
      case h_1 x xs hx hxs =>
        cases h
        rw [freeFormItems?, freeForm?_of_freeForm? hx, freeFormItems?_of_freeFormItems? hxs]
      case h_2 => cases h

theorem freeForm?_of_freeFormEntries? : ∀ {entries : List (Key × Content)}
    {named : List (String × Content)}, freeFormEntries? entries = some named →
      ∀ entry ∈ named, freeForm? entry.2 = some entry.2
  | [], _, rfl => fun _ h => nomatch h
  | (key, value) :: rest, named, h => by
      rw [freeFormEntries?] at h
      split at h
      case h_1 k v vs hk hv hvs =>
        cases h
        intro entry hentry
        rcases List.mem_cons.mp hentry with rfl | hrest
        · exact freeForm?_of_freeForm? hv
        · exact freeForm?_of_freeFormEntries? hvs entry hrest
      case h_2 => cases h

end

/-! ## Finite numbers -/

/-- No number of the data is infinite or not a number. -/
inductive Finite : Content → Prop
  | null : Finite .null
  | bool (b : Bool) : Finite (.bool b)
  | int (n : Int) : Finite (.number (.int n))
  | float {x : Decimal.Binary64} (h : x.isFinite = true) : Finite (.number (.float x))
  | text (s : String) : Finite (.text s)
  | list {items : List Content} (h : ∀ item ∈ items, Finite item) : Finite (.list items)
  | record {entries : List (Key × Content)} (h : ∀ entry ∈ entries, Finite entry.2) :
      Finite (.record entries)

theorem isNull_of_freeForm? {c v : Content} (hfinite : c.Finite) (h : freeForm? c = some v) :
    v.isNull = c.isNull := by
  cases hfinite with
  | null | bool | int | text =>
      cases h
      rfl
  | float hx =>
      rw [freeForm?, if_pos hx] at h
      cases h
      rfl
  | list =>
      rw [freeForm?] at h
      obtain ⟨xs, -, rfl⟩ := Option.map_eq_some_iff.mp h
      rfl
  | record =>
      rw [freeForm?] at h
      obtain ⟨named, -, rfl⟩ := Option.map_eq_some_iff.mp h
      rfl

end ApiRoutes.Content
