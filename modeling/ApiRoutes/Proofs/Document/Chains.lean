import ApiRoutes.Document.Reference
import Mathlib.Data.List.Nodup
import Mathlib.Data.List.Perm.Subperm

/-!
# Chains of references

An entry of a table may be a reference to another entry, so an entry is the start of a chain
(`Leads`). What follows a reference is determined by its text. So a chain that ends comes to no
reference twice (`Leads.nodup`) and goes through no more of them than the table has entries
(`Leads.length_le`), which is how many links `follow` is ready to go along: it finds the end of
every chain that has one (`follow_eq_ok_iff`).
-/

namespace ApiRoutes

variable {α : Type} {sectionName : String} {table : Entries (OrRef α)}

/-! ## Links -/

/-- A link splits the reference, compares the section and looks the name up. -/
theorem linked_eq (sectionName : String) (table : Entries (OrRef α)) (path : String) :
    linked sectionName table path =
      match splitReference path with
      | .error e => .error e
      | .ok (actual, name) =>
        if actual = sectionName then
          match table.find? name with
          | some entry => .ok entry
          | none => .error (.notFound path)
        else .error (.wrongSection sectionName actual path) := by
  unfold linked referenceName
  cases splitReference path with
  | error e => rfl
  | ok parts =>
      by_cases hsection : parts.1 = sectionName
      · simp only [bind, Except.bind, if_pos hsection]
        rfl
      · simp only [bind, Except.bind, if_neg hsection]
        rfl

/-- A link names an entry of its section. -/
theorem linked_eq_ok_iff {path : String} {entry : OrRef α} :
    linked sectionName table path = .ok entry ↔
      ∃ name, splitReference path = .ok (sectionName, name) ∧ table.find? name = some entry := by
  rw [linked_eq]
  constructor
  · intro h
    split at h
    · cases h
    · rename_i actual name hsplit
      split at h
      · rename_i hsection
        split at h
        · rename_i hfind
          cases h
          exact ⟨name, hsection ▸ hsplit, hfind⟩
        · cases h
      · cases h
  · rintro ⟨name, hsplit, hfind⟩
    simp only [hsplit, if_true, hfind]

theorem linked_of_find? {path name : String} {entry : OrRef α}
    (h : splitReference path = .ok (sectionName, name)) (hfind : table.find? name = some entry) :
    linked sectionName table path = .ok entry :=
  linked_eq_ok_iff.mpr ⟨name, h, hfind⟩

theorem mem_values_of_linked {path : String} {entry : OrRef α}
    (h : linked sectionName table path = .ok entry) : entry ∈ table.values := by
  obtain ⟨name, -, hfind⟩ := linked_eq_ok_iff.mp h
  obtain ⟨before, after, htable, -⟩ := List.lookup_eq_some_iff.mp hfind
  simp [htable, Entries.values]

/-! ## Chains -/

/-- The chain of an entry goes through the given references, in order, and ends in a value. -/
inductive Leads (sectionName : String) (table : Entries (OrRef α)) :
    OrRef α → List String → α → Prop
  | inline (value : α) : Leads sectionName table (.inline value) [] value
  | ref {path : String} {entry : OrRef α} {paths : List String} {value : α}
      (hlinked : linked sectionName table path = .ok entry)
      (h : Leads sectionName table entry paths value) :
      Leads sectionName table (.ref path) (path :: paths) value

/-- An entry has one chain. -/
theorem Leads.unique {entry : OrRef α} {paths others : List String} {value other : α}
    (h : Leads sectionName table entry paths value)
    (h' : Leads sectionName table entry others other) : paths = others ∧ value = other := by
  induction h generalizing others other with
  | inline value =>
      cases h'
      exact ⟨rfl, rfl⟩
  | ref hlinked _ ih =>
      cases h' with
      | ref hlinked' h' =>
          cases hlinked.symm.trans hlinked'
          obtain ⟨rfl, rfl⟩ := ih h'
          exact ⟨rfl, rfl⟩

/-- From each of its references on, a chain goes as the chain of that reference. -/
theorem Leads.exists_suffix {entry : OrRef α} {paths : List String} {value : α}
    (h : Leads sectionName table entry paths value) {path : String} (hpath : path ∈ paths) :
    ∃ rest, path :: rest <:+ paths ∧ Leads sectionName table (.ref path) (path :: rest) value := by
  induction h with
  | inline => exact nomatch hpath
  | @ref first entry paths value hlinked h ih =>
      rcases List.mem_cons.mp hpath with rfl | hrest
      · exact ⟨paths, List.suffix_refl _, .ref hlinked h⟩
      · obtain ⟨rest, hsuffix, hleads⟩ := ih hrest
        exact ⟨rest, hsuffix.trans (List.suffix_cons first paths), hleads⟩

/-- A chain that ends comes to no reference twice. -/
theorem Leads.nodup {entry : OrRef α} {paths : List String} {value : α}
    (h : Leads sectionName table entry paths value) : paths.Nodup := by
  induction h with
  | inline => exact List.nodup_nil
  | @ref path entry paths value hlinked h ih =>
      refine List.nodup_cons.mpr ⟨fun hpath => ?_, ih⟩
      -- the chain would go on from there as it does from its start
      obtain ⟨rest, hsuffix, hleads⟩ := h.exists_suffix hpath
      obtain ⟨hsame, -⟩ := hleads.unique (.ref hlinked h)
      have hlength := hsuffix.length_le
      rw [hsame, List.length_cons] at hlength
      omega

/-- All references of a chain but the first are entries of the table. -/
theorem Leads.mem_values {entry : OrRef α} {paths : List String} {value : α}
    (h : Leads sectionName table entry paths value) (hentry : entry ∈ table.values) :
    ∀ path ∈ paths, OrRef.ref path ∈ table.values := by
  induction h with
  | inline => exact fun _ hnil => nomatch hnil
  | ref hlinked _ ih => exact List.forall_mem_cons.mpr ⟨hentry, ih (mem_values_of_linked hlinked)⟩

/-- A chain goes through no more references than the table has entries, after the first one. -/
theorem Leads.length_le {path : String} {paths : List String} {value : α}
    (h : Leads sectionName table (.ref path) (path :: paths) value) :
    paths.length ≤ table.length := by
  cases h with
  | ref hlinked h =>
      have hsubset : paths ⊆ table.values.filterMap OrRef.path? := fun next hnext =>
        List.mem_filterMap.mpr
          ⟨.ref next, h.mem_values (mem_values_of_linked hlinked) next hnext, rfl⟩
      calc paths.length
          ≤ (table.values.filterMap OrRef.path?).length := (h.nodup.subperm hsubset).length_le
        _ ≤ table.values.length := List.length_filterMap_le _ _
        _ = table.length := List.length_map _

/-! ## Following a chain -/

theorem exists_leads_of_followLinks {start path : String} {links : Nat} {value : α}
    (h : followLinks sectionName table start links path = .ok value) :
    ∃ paths, Leads sectionName table (.ref path) (path :: paths) value := by
  induction links generalizing path with
  | zero => cases h
  | succ links ih =>
      unfold followLinks at h
      split at h
      · cases h
      · rename_i hlinked
        cases h
        exact ⟨[], .ref hlinked (.inline value)⟩
      · rename_i next hlinked
        obtain ⟨paths, hpaths⟩ := ih h
        exact ⟨next :: paths, .ref hlinked hpaths⟩

theorem followLinks_of_leads {start path : String} {links : Nat} {paths : List String} {value : α}
    (h : Leads sectionName table (.ref path) (path :: paths) value) (hlinks : paths.length < links) :
    followLinks sectionName table start links path = .ok value := by
  induction links generalizing path paths with
  | zero => omega
  | succ links ih =>
      cases h with
      | ref hlinked h =>
          rw [followLinks, hlinked]
          cases h with
          | inline => rfl
          | ref hnext h =>
              rw [List.length_cons] at hlinks
              exact ih (.ref hnext h) (by omega)

/-- Following a reference finds the value that its chain ends in, if it ends. -/
theorem follow_eq_ok_iff {path : String} {value : α} :
    follow sectionName table path = .ok value
      ↔ ∃ paths, Leads sectionName table (.ref path) (path :: paths) value := by
  constructor
  · exact exists_leads_of_followLinks
  · rintro ⟨paths, h⟩
    have hlength := h.length_le
    exact followLinks_of_leads h (by omega)

/-- Without regard to how an error is reported, what is found depends on the entry that the reference
names alone. -/
theorem toOption_follow_congr {path other : String}
    (h : (linked sectionName table path).toOption = (linked sectionName table other).toOption) :
    (follow sectionName table path).toOption = (follow sectionName table other).toOption := by
  have hstart : ∀ (links : Nat) (start start' next : String),
      (followLinks sectionName table start links next).toOption
        = (followLinks sectionName table start' links next).toOption := by
    intro links start start'
    induction links with
    | zero => exact fun _ => rfl
    | succ links ih =>
        intro next
        rw [followLinks, followLinks]
        split
        · rfl
        · rfl
        · exact ih _
  unfold follow
  rw [followLinks, followLinks]
  cases hfirst : linked sectionName table path with
  | error e =>
      cases hsecond : linked sectionName table other with
      | error e => rfl
      | ok entry => rw [hfirst, hsecond] at h; cases h
  | ok entry =>
      cases hsecond : linked sectionName table other with
      | error e => rw [hfirst, hsecond] at h; cases h
      | ok entry' =>
          rw [hfirst, hsecond] at h
          obtain rfl : entry = entry' := Option.some.inj h
          cases entry with
          | inline value => rfl
          | ref next => exact hstart _ _ _ _

end ApiRoutes
