/-!
# Ordered tables

A table is a list of entries in the order of their keys' first appearance. Writing to a key that is
there replaces its value in place; writing to a new key adds an entry at the end. What `insert` does
is told by two views: the value of every key (`find?_insert_self`, `find?_insert_of_ne`) and the keys
in order (`keys_insert`).
-/

namespace ApiRoutes

/-- A table from texts to values of `α`, in order. -/
abbrev Entries (α : Type) := List (String × α)

namespace Entries

variable {α β : Type}

def find? (entries : Entries α) (key : String) : Option α := entries.lookup key

def keys (entries : Entries α) : List String := entries.map Prod.fst

def values (entries : Entries α) : List α := entries.map Prod.snd

def insert (key : String) (value : α) : Entries α → Entries α
  | [] => [(key, value)]
  | (k, v) :: rest => if k = key then (k, value) :: rest else (k, v) :: insert key value rest

theorem find?_cons (k key : String) (v : α) (entries : Entries α) :
    find? ((k, v) :: entries) key = if key = k then some v else entries.find? key := by
  by_cases h : key = k
  · simp [find?, h]
  · have hne : (key == k) = false := by simp [h]
    simp [find?, List.lookup_cons, h, hne]

@[simp] theorem find?_insert_self (key : String) (value : α) (entries : Entries α) :
    (entries.insert key value).find? key = some value := by
  induction entries with
  | nil => simp [insert, find?_cons]
  | cons entry rest ih =>
    obtain ⟨k, v⟩ := entry
    by_cases h : k = key
    · simp [insert, find?_cons, h]
    · simp [insert, find?_cons, h, Ne.symm h, ih]

theorem find?_insert_of_ne {key other : String} (h : other ≠ key) (value : α)
    (entries : Entries α) : (entries.insert key value).find? other = entries.find? other := by
  induction entries with
  | nil => simp [insert, find?_cons, h]
  | cons entry rest ih =>
    obtain ⟨k, v⟩ := entry
    by_cases hk : k = key
    · subst hk
      simp [insert, find?_cons, h]
    · simp [insert, find?_cons, hk, ih]

/-- Writing adds a key at the end unless it is there. -/
theorem keys_insert (key : String) (value : α) (entries : Entries α) :
    (entries.insert key value).keys =
      if key ∈ entries.keys then entries.keys else entries.keys ++ [key] := by
  induction entries with
  | nil => simp [insert, keys]
  | cons entry rest ih =>
    obtain ⟨k, v⟩ := entry
    by_cases hk : k = key
    · simp [insert, keys, hk]
    · by_cases hm : key ∈ keys rest <;> simp_all [insert, keys, Ne.symm hk]

/-- The table that results from writing the given entries one after the other. -/
def ofList (entries : List (String × α)) : Entries α :=
  entries.foldl (fun table (k, v) => table.insert k v) []

/-- Writes every entry of `more`, in order, to the table. -/
def extend (entries more : Entries α) : Entries α :=
  more.foldl (fun table (k, v) => table.insert k v) entries

def mapValues (f : α → β) (entries : Entries α) : Entries β := entries.map fun (k, v) => (k, f v)

@[simp] theorem keys_mapValues (f : α → β) (entries : Entries α) :
    (entries.mapValues f).keys = entries.keys := by
  simp [keys, mapValues]

end Entries

end ApiRoutes
