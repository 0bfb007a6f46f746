import ApiRoutes.Proofs.Text.NameLike
import ApiRoutes.Proofs.Text.Splitting

/-!
# Trimming and casing

Trimming a text leaves something of it unless it consists of blanks (`trimmed_eq_empty_iff`). No
letter or digit is blank (`isBlank_of_isAlphanumeric`), and none becomes one in lower case
(`isBlank_of_mem_toLowercase`): the characters that a case map gives lie in ranges apart from the
blanks. So the camel casing of a text is trimmed to nothing exactly if the text has no letter and no
digit, and then it is empty before the trimming (`trimmed_lowerCamelCase_eq_empty_iff`).
-/

namespace ApiRoutes.Text

/-! ## Trimming -/

theorem dropEndWhile_eq_nil_iff {p : Char → Bool} {cs : List Char} :
    dropEndWhile p cs = [] ↔ ∀ c ∈ cs, p c = true := by
  simp [dropEndWhile, List.dropWhile_eq_nil_iff]

theorem trim_eq_nil_iff {cs : List Char} : trim cs = [] ↔ ∀ c ∈ cs, isBlank c = true := by
  rw [trim, trimEnd, dropEndWhile_eq_nil_iff, trimStart]
  constructor
  · intro h
    cases hdrop : cs.dropWhile isBlank with
    | nil => exact List.dropWhile_eq_nil_iff.mp hdrop
    | cons c rest =>
        -- the first character that is left is no blank
        have hne : cs.dropWhile isBlank ≠ [] := hdrop ▸ List.cons_ne_nil c rest
        have hfirst := List.head_dropWhile_not isBlank hne
        rw [h _ (List.head_mem hne)] at hfirst
        cases hfirst
  · intro h c hc
    exact h c ((List.dropWhile_sublist _).subset hc)

theorem trimmed_eq_empty_iff {s : String} :
    trimmed s = "" ↔ ∀ c ∈ s.toList, isBlank c = true := by
  rw [trimmed, String.ofList_eq_empty_iff, trim_eq_nil_iff]

/-! ## Ranges -/

/-- No number lies in a range of both lists. -/
def rangesApart (ranges others : List (Nat × Nat)) : Bool :=
  ranges.all fun (first, last) => others.all fun (first', last') => last < first' || last' < first

theorem inRanges_eq_false_of_apart {ranges others : List (Nat × Nat)} {n : Nat}
    (h : rangesApart ranges others = true) (hn : inRanges ranges n = true) :
    inRanges others n = false := by
  obtain ⟨⟨first, last⟩, hrange, hin⟩ := List.any_eq_true.mp hn
  rw [inRanges, List.any_eq_false]
  rintro ⟨first', last'⟩ hother
  have happart := List.all_eq_true.mp (List.all_eq_true.mp h _ hrange) _ hother
  simp only [Bool.or_eq_true, Bool.and_eq_true, decide_eq_true_eq] at happart hin ⊢
  omega

/-- The ranges in which the characters lie that a case map gives. -/
def imageRanges (runs : List (Nat × Nat × Nat × Nat)) (long : List (Nat × List Nat)) :
    List (Nat × Nat) :=
  (runs.map fun (first, last, _, target) => (target, target + (last - first))) ++
    long.flatMap fun (_, target) => target.map fun m => (m, m)

theorem mem_mapCase {runs : List (Nat × Nat × Nat × Nat)} {long : List (Nat × List Nat)} {n m : Nat}
    (hm : m ∈ mapCase runs long n) : m = n ∨ inRanges (imageRanges runs long) m = true := by
  have hin : ∀ {first last : Nat}, (first, last) ∈ imageRanges runs long → first ≤ m → m ≤ last →
      inRanges (imageRanges runs long) m = true := by
    intro first last hrange hfirst hlast
    exact List.any_eq_true.mpr ⟨(first, last), hrange, by simp [hfirst, hlast]⟩
  rcases cases_of_mem_mapCase hm with ⟨target, hentry, hm⟩ | ⟨first, last, step, target, hrun,
    hfirst, hlast, rfl⟩ | rfl
  · have hrange : (m, m) ∈ imageRanges runs long :=
      List.mem_append_right _ (List.mem_flatMap.mpr ⟨_, hentry, List.mem_map_of_mem hm⟩)
    exact .inr (hin hrange (Nat.le_refl m) (Nat.le_refl m))
  · have hrange : (target, target + (last - first)) ∈ imageRanges runs long :=
      List.mem_append_left _ (List.mem_map.mpr ⟨_, hrun, rfl⟩)
    exact .inr (hin hrange (by omega) (by omega))
  · exact .inl rfl

/-! ## Blanks -/

/-- The ranges of blanks. -/
def blankRanges : List (Nat × Nat) :=
  [(0x9, 0xD), (0x20, 0x20), (0x85, 0x85), (0xA0, 0xA0), (0x1680, 0x1680),
    (0x2000, 0x200A), (0x2028, 0x2029), (0x202F, 0x202F), (0x205F, 0x205F), (0x3000, 0x3000)]

theorem isBlank_eq (c : Char) : isBlank c = inRanges blankRanges c.toNat := rfl

/-- A letter or digit of ASCII is beyond the blanks of ASCII, and before all others. -/
theorem isBlank_of_isAlphanum {c : Char} (h : c.isAlphanum = true) : isBlank c = false := by
  have hc : inRanges [(48, 57), (65, 90), (97, 122)] c.toNat = true := by
    simp only [Char.isAlphanum, Char.isAlpha, Bool.or_eq_true, isUpper_iff, isLower_iff,
      isDigit_iff] at h
    simp only [inRanges, List.any_cons, List.any_nil, Bool.or_eq_true, Bool.and_eq_true,
      decide_eq_true_eq]
    omega
  exact inRanges_eq_false_of_apart (by decide) hc

theorem isBlank_of_isAlphanumeric {c : Char} (h : isAlphanumeric c = true) : isBlank c = false := by
  unfold isAlphanumeric at h
  split at h
  · exact isBlank_of_isAlphanum h
  · have hapart : rangesApart alphanumericRanges blankRanges = true := by decide +kernel
    exact inRanges_eq_false_of_apart hapart h

/-- A character by its number is no blank if its number is none. -/
theorem isBlank_ofNat {n : Nat} (h : inRanges blankRanges n = false) :
    isBlank (Char.ofNat n) = false := by
  rw [isBlank_eq]
  by_cases hvalid : n.isValidChar
  · rw [toNat_ofNat_of_isValidChar hvalid]
    exact h
  · rw [Char.ofNat, dif_neg hvalid]
    decide

/-- A letter or digit does not become a blank in lower case. -/
theorem isBlank_of_mem_toLowercase {c d : Char} (hc : isAlphanumeric c = true)
    (hd : d ∈ toLowercase c) : isBlank d = false := by
  unfold toLowercase at hd
  split at hd
  · obtain rfl := List.mem_singleton.mp hd
    cases hupper : c.isUpper with
    | false =>
        rw [Char.toLower_eq_of_not_isUpper (by simp [hupper])]
        exact isBlank_of_isAlphanumeric hc
    | true => exact isBlank_of_isAlphanum (by simp [Char.isAlphanum, Char.isAlpha, hupper])
  · obtain ⟨m, hm, rfl⟩ := List.mem_map.mp hd
    rcases mem_mapCase hm with rfl | himage
    · rw [Char.ofNat_toNat]
      exact isBlank_of_isAlphanumeric hc
    · have hapart : rangesApart (imageRanges lowercaseMap longLowercase) blankRanges = true := by
        decide +kernel
      exact isBlank_ofNat (inRanges_eq_false_of_apart hapart himage)

/-! ## Camel casing -/

theorem toLowercase_ne_nil (c : Char) : toLowercase c ≠ [] := by
  unfold toLowercase
  split
  · exact List.cons_ne_nil _ _
  · intro hnil
    exact mapCase_ne_nil (by decide +kernel) _ (List.map_eq_nil_iff.mp hnil)

/-- The words of a run are not empty, and neither is what is read of the current one once it is in
upper case. -/
theorem ne_nil_of_mem_cutWords {mode : WordMode} {read cs word : List Char}
    (hread : mode = .upper → read ≠ []) (hword : word ∈ cutWords mode read cs) : word ≠ [] := by
  have hconcat : ∀ (read : List Char) (c : Char), read ++ [c] ≠ [] := by simp
  fun_induction cutWords mode read cs with
  | case1 => cases hword
  | case2 mode read c =>
      obtain rfl := List.mem_singleton.mp hword
      exact hconcat read c
  | case3 mode read c next rest hends ih =>
      rcases List.mem_cons.mp hword with rfl | hword
      · exact hconcat read c
      · exact ih nofun hword
  | case4 mode read c next rest hgoes hcut ih =>
      rcases List.mem_cons.mp hword with rfl | hword
      · simp only [Bool.and_eq_true, decide_eq_true_eq] at hcut
        exact hread hcut.1.1
      · exact ih nofun hword
  | case5 mode read c next rest hgoes hstays ih => exact ih (fun _ => hconcat read c) hword

theorem ne_nil_of_mem_casedWords {s : String} {word : List Char} (hword : word ∈ casedWords s) :
    word ≠ [] := by
  obtain ⟨piece, -, hword⟩ := List.mem_flatMap.mp hword
  have hstart : WordMode.start = .upper → ([] : List Char) ≠ [] := nofun
  exact ne_nil_of_mem_cutWords hstart hword

/-- There are words exactly in texts with letters or digits. -/
theorem casedWords_eq_nil_iff {s : String} : casedWords s = [] ↔ IsWordless s := by
  have hflat := flatten_casedWords s
  constructor
  · intro h c hc
    rw [h, List.flatten_nil] at hflat
    simpa using List.filter_eq_nil_iff.mp hflat.symm c hc
  · intro h
    rw [List.filter_eq_nil_iff.mpr fun c hc => by simp [h c hc]] at hflat
    refine List.eq_nil_iff_forall_not_mem.mpr fun word hword => ne_nil_of_mem_casedWords hword ?_
    exact List.flatten_eq_nil_iff.mp hflat word hword

/-- A word of letters and digits is not blank in lower case. -/
theorem exists_not_blank_lowerWord {word : List Char} (hne : word ≠ [])
    (hword : ∀ c ∈ word, isAlphanumeric c = true) : ∃ d ∈ lowerWord word, isBlank d = false := by
  fun_cases lowerWord word with
  | case1 => exact absurd rfl hne
  | case2 => exact ⟨'ς', List.mem_singleton_self _, by decide⟩
  | case3 c cs =>
      obtain ⟨d, ds, hlower⟩ := List.exists_cons_of_ne_nil (toLowercase_ne_nil c)
      have hd : d ∈ toLowercase c := hlower ▸ List.mem_cons_self
      exact ⟨d, List.mem_append_left _ hd,
        isBlank_of_mem_toLowercase (hword c List.mem_cons_self) hd⟩

/-- Nothing is left of a text in camel casing exactly if it has no letter and no digit. -/
theorem trimmed_lowerCamelCase_eq_empty_iff {s : String} :
    trimmed (lowerCamelCase s) = "" ↔ IsWordless s := by
  rw [trimmed_eq_empty_iff, ← casedWords_eq_nil_iff, lowerCamelCase]
  cases hwords : casedWords s with
  | nil => exact iff_of_true (fun _ h => nomatch h) rfl
  | cons word words =>
      refine iff_of_false (fun hblank => ?_) (List.cons_ne_nil _ _)
      have hword : word ∈ casedWords s := hwords ▸ List.mem_cons_self
      obtain ⟨d, hd, hnot⟩ := exists_not_blank_lowerWord (ne_nil_of_mem_casedWords hword)
        (isAlphanumeric_casedWords hword)
      have hmem : d ∈ (String.ofList (lowerWord word ++ words.flatMap capitalWord)).toList := by
        rw [String.toList_ofList]
        exact List.mem_append_left _ hd
      rw [hblank d hmem] at hnot
      cases hnot

end ApiRoutes.Text
