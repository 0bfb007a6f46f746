import ApiRoutes.Proofs.Text.WordChars

/-!
# Texts that look like names

A name in Pascal casing consists of word characters, and its first letter is no lower case letter of
ASCII: changing a character to upper case gives none (`isLower_eq_false_of_toUppercase`). So it
differs from all texts with brackets, quotes or blanks, and from all words in lower case. Texts that
pass this test are `isNameLike`: every Pascal casing is (`isNameLike_pascal`), and stays so between
word characters (`isNameLike_append`).
-/

namespace ApiRoutes.Text

/-- A text of word characters not all of which are lower case letters of ASCII. -/
def isNameLike (s : String) : Bool := s.toList.all isWordChar && s.toList.any (!·.isLower)

theorem isNameLike_iff {s : String} : isNameLike s = true ↔
    (∀ c ∈ s.toList, isWordChar c = true) ∧ ∃ c ∈ s.toList, c.isLower = false := by
  simp [isNameLike]

theorem isWordChar_of_isNameLike {s : String} (h : isNameLike s = true) {c : Char}
    (hc : c ∈ s.toList) : isWordChar c = true :=
  (isNameLike_iff.mp h).1 c hc

/-! ## Upper case -/

theorem isLower_eq_false_of_toUppercase {c d : Char} (h : d ∈ toUppercase c) :
    d.isLower = false := by
  rcases cases_of_mem_toUppercase h with ⟨rfl, hlower⟩ | hupper | hbeyond
  · exact hlower
  · rw [Bool.eq_false_iff, ne_eq, isLower_iff]
    rw [isUpper_iff] at hupper
    omega
  · rw [Bool.eq_false_iff, ne_eq, isLower_iff]
    omega

theorem mapCase_ne_nil {runs : List (Nat × Nat × Nat × Nat)} {long : List (Nat × List Nat)}
    (h : long.all (!·.2.isEmpty) = true) (n : Nat) : mapCase runs long n ≠ [] := by
  unfold mapCase
  split
  · rename_i target hlook
    obtain ⟨before, after, hentry, -⟩ := List.lookup_eq_some_iff.mp hlook
    have htarget := List.all_eq_true.mp h (n, target) (by simp [hentry])
    simpa using htarget
  · split <;> exact List.cons_ne_nil _ _

theorem toUppercase_ne_nil (c : Char) : toUppercase c ≠ [] := by
  unfold toUppercase
  split
  · exact List.cons_ne_nil _ _
  · intro hnil
    exact mapCase_ne_nil (by decide +kernel) _ (List.map_eq_nil_iff.mp hnil)

/-! ## Pascal casing -/

/-- A word that is written with a capital has a character that is not in lower case. -/
theorem exists_not_isLower_capitalWord {word : List Char} (h : word ≠ []) :
    ∃ c ∈ capitalWord word, c.isLower = false := by
  obtain ⟨first, rest, rfl⟩ := List.exists_cons_of_ne_nil h
  obtain ⟨d, ds, hupper⟩ := List.exists_cons_of_ne_nil (toUppercase_ne_nil first)
  have hd : d ∈ toUppercase first := hupper ▸ List.mem_cons_self
  exact ⟨d, List.mem_append_left _ hd, isLower_eq_false_of_toUppercase hd⟩

theorem exists_not_isLower_pascalCase {s : String} {c : Char} (hmem : c ∈ s.toList)
    (hc : isAlphanumeric c = true) : ∃ d ∈ (pascalCase s).toList, d.isLower = false := by
  have hflat : c ∈ (casedWords s).flatten :=
    flatten_casedWords s ▸ List.mem_filter.mpr ⟨hmem, hc⟩
  obtain ⟨word, hword, hcword⟩ := List.mem_flatten.mp hflat
  obtain ⟨d, hd, hlower⟩ := exists_not_isLower_capitalWord (List.ne_nil_of_mem hcword)
  refine ⟨d, ?_, hlower⟩
  rw [pascalCase, String.toList_ofList]
  exact List.mem_flatMap.mpr ⟨word, hword, hd⟩

theorem mem_joinWith {separator : String} {c : Char} {item : String} (hc : c ∈ item.toList) :
    ∀ items : List String, item ∈ items → c ∈ (joinWith separator items).toList
  | [only], hitem => List.mem_singleton.mp hitem ▸ hc
  | first :: next :: items, hitem => by
      rw [joinWith, String.toList_append, List.mem_append]
      rcases List.mem_cons.mp hitem with rfl | hrest
      · exact .inl (by rw [String.toList_append]; exact List.mem_append_left _ hc)
      · exact .inr (mem_joinWith hc (next :: items) hrest)

/-- The words of a name are never empty of letters and digits. -/
theorem exists_isAlphanumeric_identifierWords (name : String) :
    ∃ c ∈ (identifierWords name).toList, isAlphanumeric c = true := by
  unfold identifierWords
  split
  · exact ⟨'u', by decide, by decide⟩
  · rename_i words hne
    obtain ⟨word, rest, hwords⟩ := List.exists_cons_of_ne_nil hne
    have hword : word ∈ wordsBy (!isAlphanumeric ·) name.toList := hwords ▸ List.mem_cons_self
    have hnonempty : word ≠ [] := by simpa using (List.mem_filter.mp hword).2
    obtain ⟨c, cs, rfl⟩ := List.exists_cons_of_ne_nil hnonempty
    have hitem : c ∈ (String.ofList (c :: cs)).toList := by simp
    refine ⟨c, mem_joinWith hitem _ (List.mem_map_of_mem hword), ?_⟩
    have hflat : c ∈ (wordsBy (!isAlphanumeric ·) name.toList).flatten :=
      List.mem_flatten.mpr ⟨_, hword, List.mem_cons_self⟩
    rw [flatten_wordsBy] at hflat
    simpa using (List.mem_filter.mp hflat).2

/-- The Pascal casing of a name looks like a name. -/
theorem isNameLike_pascal (name : String) : isNameLike (Casings.of name).pascal = true := by
  obtain ⟨c, hmem, hc⟩ := exists_isAlphanumeric_identifierWords name
  exact isNameLike_iff.mpr
    ⟨isWordChar_pascalCase (identifierWords name), exists_not_isLower_pascalCase hmem hc⟩

/-- What looks like a name still does with word characters around it. -/
theorem isNameLike_append {before name after : String}
    (hbefore : ∀ c ∈ before.toList, isWordChar c = true) (hname : isNameLike name = true)
    (hafter : ∀ c ∈ after.toList, isWordChar c = true) :
    isNameLike (before ++ name ++ after) = true := by
  obtain ⟨hword, c, hc, hlower⟩ := isNameLike_iff.mp hname
  rw [isNameLike_iff, String.toList_append, String.toList_append]
  refine ⟨List.forall_mem_append.mpr ⟨List.forall_mem_append.mpr ⟨hbefore, hword⟩, hafter⟩,
    c, ?_, hlower⟩
  exact List.mem_append_left _ (List.mem_append_right _ hc)

end ApiRoutes.Text
