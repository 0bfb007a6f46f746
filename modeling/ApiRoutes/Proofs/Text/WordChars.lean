import Mathlib
import ApiRoutes.Naming.Casings

/-!
# Characters of cased names

Casing a name throws away everything between its words, and changing the case of a letter gives
letters and marks again. So the characters of a name in camel or Pascal casing are ASCII letters and
digits or lie beyond ASCII (`isWordChar`): no bracket, quote, bar or blank ever comes out of a
casing. That is what keeps names apart from the punctuation they are put between.

The case maps are tables, which are checked entry by entry once (`mapYields`): beyond ASCII a change
of case gives letters of that case or characters beyond ASCII (`cases_of_mem_toLowercase`,
`cases_of_mem_toUppercase`). So a property of all these is kept by every change of case
(`KeptByCase`).
-/

namespace ApiRoutes.Text

/-- An ASCII letter or digit, or any character beyond ASCII. -/
def isWordChar (c : Char) : Bool := c.isAlphanum || 0x80 ≤ c.toNat

theorem isWordChar_of_isAlphanumeric {c : Char} (h : isAlphanumeric c = true) :
    isWordChar c = true := by
  unfold isAlphanumeric at h
  split at h
  · simp [isWordChar, h]
  · rename_i hlow
    have hhigh : 0x80 ≤ c.toNat := Nat.le_of_not_lt hlow
    simp [isWordChar, hhigh]

/-! ## Letters and digits of ASCII -/

theorem isUpper_iff {c : Char} : c.isUpper = true ↔ 65 ≤ c.toNat ∧ c.toNat ≤ 90 := by
  simp [Char.isUpper, UInt32.le_iff_toNat_le, ← Char.toNat_val]

theorem isLower_iff {c : Char} : c.isLower = true ↔ 97 ≤ c.toNat ∧ c.toNat ≤ 122 := by
  simp [Char.isLower, UInt32.le_iff_toNat_le, ← Char.toNat_val]

theorem isDigit_iff {c : Char} : c.isDigit = true ↔ 48 ≤ c.toNat ∧ c.toNat ≤ 57 :=
  Char.isDigit_iff_toNat

/-! ## Case maps -/

/-- A case map gives the images of a number by its own entry or by the run that it lies in, or it
gives the number itself. -/
theorem cases_of_mem_mapCase {runs : List (Nat × Nat × Nat × Nat)} {long : List (Nat × List Nat)}
    {n m : Nat} (hm : m ∈ mapCase runs long n) :
    (∃ target, (n, target) ∈ long ∧ m ∈ target)
      ∨ (∃ first last step target, (first, last, step, target) ∈ runs ∧ first ≤ n ∧ n ≤ last
        ∧ m = target + (n - first))
      ∨ m = n := by
  unfold mapCase at hm
  split at hm
  · rename_i target hlook
    obtain ⟨before, after, hentry, -⟩ := List.lookup_eq_some_iff.mp hlook
    exact .inl ⟨target, by simp [hentry], hm⟩
  · split at hm
    · rename_i first last step target hfind
      have hin := List.find?_some hfind
      simp only [Bool.and_eq_true, decide_eq_true_eq] at hin
      exact .inr (.inl ⟨first, last, step, target, List.mem_of_find?_eq_some hfind, hin.1.1,
        hin.1.2, List.mem_singleton.mp hm⟩)
    · exact .inr (.inr (List.mem_singleton.mp hm))

section

variable (p : Char → Bool)

/-- The images of one run of a case map lie beyond ASCII, or the run is one letter and its image has
the property. -/
def runYields : Nat × Nat × Nat × Nat → Bool
  | (first, last, _, target) =>
    (first = last && p (Char.ofNat target)) ||
      (0x80 ≤ target && target + (last - first) < 0xD800) ||
      (0xE000 ≤ target && target + (last - first) < 0x110000)

/-- The images of a case map have a property that all characters beyond ASCII have. -/
def mapYields (runs : List (Nat × Nat × Nat × Nat)) (long : List (Nat × List Nat)) : Bool :=
  runs.all (runYields p) && long.all fun entry => entry.2.all fun m => p (Char.ofNat m)

end

theorem toNat_ofNat_of_isValidChar {n : Nat} (h : n.isValidChar) : (Char.ofNat n).toNat = n := by
  unfold Char.ofNat
  rw [dif_pos h]
  rfl

section

variable {p : Char → Bool} (hbeyond : ∀ c : Char, 0x80 ≤ c.toNat → p c = true)
include hbeyond

theorem yields_ofNat {n : Nat} (hlow : 0x80 ≤ n) (h : n.isValidChar) :
    p (Char.ofNat n) = true :=
  hbeyond _ (by rwa [toNat_ofNat_of_isValidChar h])

theorem yields_run {first last step target n : Nat}
    (h : runYields p (first, last, step, target) = true) (hfirst : first ≤ n) (hlast : n ≤ last) :
    p (Char.ofNat (target + (n - first))) = true := by
  simp only [runYields, Bool.or_eq_true, Bool.and_eq_true, decide_eq_true_eq] at h
  rcases h with (⟨rfl, hletter⟩ | hlow) | hhigh
  · have hzero : n - first = 0 := by omega
    rwa [hzero, Nat.add_zero]
  · exact yields_ofNat hbeyond (by omega) (Or.inl (by omega))
  · exact yields_ofNat hbeyond (by omega) (Or.inr ⟨by omega, by omega⟩)

theorem yields_mapCase {runs : List (Nat × Nat × Nat × Nat)} {long : List (Nat × List Nat)}
    (h : mapYields p runs long = true) {c : Char} (hc : 0x80 ≤ c.toNat) {m : Nat}
    (hm : m ∈ mapCase runs long c.toNat) : p (Char.ofNat m) = true := by
  rw [mapYields, Bool.and_eq_true] at h
  rcases cases_of_mem_mapCase hm with ⟨target, hentry, hm⟩ | ⟨first, last, step, target, hrun,
    hfirst, hlast, rfl⟩ | rfl
  · exact List.all_eq_true.mp (List.all_eq_true.mp h.2 _ hentry) m hm
  · exact yields_run hbeyond (List.all_eq_true.mp h.1 _ hrun) hfirst hlast
  · rw [Char.ofNat_toNat]
    exact hbeyond c hc

end

/-- A lower case form is the character itself, a letter in lower case, or beyond ASCII. -/
theorem cases_of_mem_toLowercase {c d : Char} (hd : d ∈ toLowercase c) :
    d = c ∨ d.isLower = true ∨ 0x80 ≤ d.toNat := by
  unfold toLowercase at hd
  split at hd
  · obtain rfl := List.mem_singleton.mp hd
    cases hupper : c.isUpper with
    | false => exact .inl (Char.toLower_eq_of_not_isUpper (by simp [hupper]))
    | true => exact .inr (.inl (by simp [Char.isAlpha, hupper]))
  · rename_i hhigh
    obtain ⟨m, hm, rfl⟩ := List.mem_map.mp hd
    have hmap : mapYields (fun c => c.isLower || 0x80 ≤ c.toNat) lowercaseMap longLowercase = true :=
      by decide +kernel
    have hyields := yields_mapCase (fun c hc => by simp [hc]) hmap (Nat.le_of_not_lt hhigh) hm
    exact .inr (by simpa using hyields)

/-- An upper case form is a letter in upper case, or beyond ASCII, or the character itself, which is
then no letter in lower case. -/
theorem cases_of_mem_toUppercase {c d : Char} (hd : d ∈ toUppercase c) :
    (d = c ∧ c.isLower = false) ∨ d.isUpper = true ∨ 0x80 ≤ d.toNat := by
  unfold toUppercase at hd
  split at hd
  · obtain rfl := List.mem_singleton.mp hd
    cases hlower : c.isLower with
    | false => exact .inl ⟨Char.toUpper_eq_of_not_isLower (by simp [hlower]), rfl⟩
    | true => exact .inr (.inl (by simp [Char.isAlpha, hlower]))
  · rename_i hhigh
    obtain ⟨m, hm, rfl⟩ := List.mem_map.mp hd
    have hmap : mapYields (fun c => c.isUpper || 0x80 ≤ c.toNat) uppercaseMap longUppercase = true :=
      by decide +kernel
    have hyields := yields_mapCase (fun c hc => by simp [hc]) hmap (Nat.le_of_not_lt hhigh) hm
    exact .inr (by simpa using hyields)

/-! ## Properties that casing keeps -/

/-- A property of all letters and of all characters beyond ASCII: no change of case takes it
away. -/
structure KeptByCase (p : Char → Bool) : Prop where
  letter : ∀ c : Char, c.isAlpha = true → p c = true
  beyond : ∀ c : Char, 0x80 ≤ c.toNat → p c = true

namespace KeptByCase

variable {p : Char → Bool} (h : KeptByCase p)
include h

theorem toLowercase {c d : Char} (hc : p c = true) (hd : d ∈ toLowercase c) : p d = true := by
  rcases cases_of_mem_toLowercase hd with rfl | hlower | hbeyond
  · exact hc
  · exact h.letter d (by rw [Char.isAlpha, hlower, Bool.or_true])
  · exact h.beyond d hbeyond

theorem toUppercase {c d : Char} (hc : p c = true) (hd : d ∈ toUppercase c) : p d = true := by
  rcases cases_of_mem_toUppercase hd with ⟨rfl, -⟩ | hupper | hbeyond
  · exact hc
  · exact h.letter d (by rw [Char.isAlpha, hupper, Bool.true_or])
  · exact h.beyond d hbeyond

theorem lowerWord {word : List Char} (hword : ∀ c ∈ word, p c = true) :
    ∀ d ∈ lowerWord word, p d = true := by
  induction word using lowerWord.induct with
  | case1 => exact fun _ hd => nomatch hd
  | case2 =>
      intro d hd
      obtain rfl : d = 'ς' := List.mem_singleton.mp hd
      exact h.beyond _ (by decide)
  | case3 c cs hne ih =>
      intro d hd
      rw [Text.lowerWord, List.mem_append] at hd
      · rcases hd with hd | hd
        · exact h.toLowercase (hword c List.mem_cons_self) hd
        · exact ih (fun e he => hword e (List.mem_cons_of_mem _ he)) d hd
      · exact hne

theorem capitalWord {word : List Char} (hword : ∀ c ∈ word, p c = true) :
    ∀ d ∈ capitalWord word, p d = true := by
  cases word with
  | nil => exact fun _ hd => nomatch hd
  | cons c cs =>
      intro d hd
      rw [Text.capitalWord, List.mem_append] at hd
      rcases hd with hd | hd
      · exact h.toUppercase (hword c List.mem_cons_self) hd
      · exact h.lowerWord (fun e he => hword e (List.mem_cons_of_mem _ he)) d hd

end KeptByCase

theorem keptByCase_isWordChar : KeptByCase isWordChar where
  letter := fun c hc => by simp [isWordChar, Char.isAlphanum, hc]
  beyond := fun c hc => by simp [isWordChar, hc]

/-! ## Words -/

theorem flatten_splitBy (isSeparator : Char → Bool) (cs : List Char) :
    (splitBy isSeparator cs).flatten = cs.filter (!isSeparator ·) := by
  induction cs with
  | nil => rfl
  | cons c cs ih =>
      unfold splitBy
      split
      · rename_i hc
        simp [hc, ih]
      · rename_i hc
        have hkept : (c :: cs).filter (!isSeparator ·) = c :: cs.filter (!isSeparator ·) :=
          List.filter_cons_of_pos (by simpa using hc)
        rw [hkept, ← ih]
        split
        · rename_i hsplit
          rw [hsplit]
          rfl
        · rename_i hsplit
          rw [hsplit]
          rfl

theorem flatten_wordsBy (isSeparator : Char → Bool) (cs : List Char) :
    (wordsBy isSeparator cs).flatten = cs.filter (!isSeparator ·) := by
  rw [wordsBy, List.flatten_filter_not_isEmpty, flatten_splitBy]

/-- Cutting a run into words keeps its characters in order. -/
theorem flatten_cutWords_cons (mode : WordMode) (read : List Char) (c : Char) (cs : List Char) :
    (cutWords mode read (c :: cs)).flatten = read ++ c :: cs := by
  induction cs generalizing mode read c with
  | nil => simp [cutWords]
  | cons next rest ih =>
      unfold cutWords
      split
      · simp [ih]
      · split
        · simp [ih]
        · simp [ih]

theorem flatten_cutWords (cs : List Char) : (cutWords .start [] cs).flatten = cs := by
  cases cs with
  | nil => rfl
  | cons c cs => exact flatten_cutWords_cons .start [] c cs

/-- The words of a text are made of its letters and digits in order. -/
theorem flatten_casedWords (s : String) :
    (casedWords s).flatten = s.toList.filter isAlphanumeric := by
  have hcut : ∀ pieces : List (List Char),
      (pieces.flatMap (cutWords .start [])).flatten = pieces.flatten := by
    intro pieces
    induction pieces with
    | nil => rfl
    | cons piece pieces ih =>
        rw [List.flatMap_cons, List.flatten_append, flatten_cutWords, ih, List.flatten_cons]
  rw [casedWords, hcut, flatten_splitBy]
  simp only [Bool.not_not]

/-- Words consist of letters and digits. -/
theorem isAlphanumeric_casedWords {s : String} {word : List Char} (hword : word ∈ casedWords s) :
    ∀ c ∈ word, isAlphanumeric c = true := by
  intro c hc
  have hmem : c ∈ (casedWords s).flatten := List.mem_flatten.mpr ⟨word, hword, hc⟩
  rw [flatten_casedWords] at hmem
  exact (List.mem_filter.mp hmem).2

theorem isWordChar_casedWords {s : String} {word : List Char} (hword : word ∈ casedWords s) :
    ∀ c ∈ word, isWordChar c = true :=
  fun c hc => isWordChar_of_isAlphanumeric (isAlphanumeric_casedWords hword c hc)

/-! ## Names -/

/-- Pascal casing leaves nothing but word characters. -/
theorem isWordChar_pascalCase (s : String) : ∀ c ∈ (pascalCase s).toList, isWordChar c = true := by
  intro c hc
  rw [pascalCase, String.toList_ofList] at hc
  obtain ⟨word, hword, hc⟩ := List.mem_flatMap.mp hc
  exact keptByCase_isWordChar.capitalWord (isWordChar_casedWords hword) c hc

/-- Camel casing leaves nothing but word characters. -/
theorem isWordChar_lowerCamelCase (s : String) :
    ∀ c ∈ (lowerCamelCase s).toList, isWordChar c = true := by
  intro c hc
  unfold lowerCamelCase at hc
  split at hc
  · simp at hc
  · rename_i word words hsplit
    have hwords : ∀ w ∈ word :: words, ∀ c ∈ w, isWordChar c = true :=
      fun w hw => isWordChar_casedWords (hsplit ▸ hw)
    rw [String.toList_ofList, List.mem_append] at hc
    rcases hc with hc | hc
    · exact keptByCase_isWordChar.lowerWord (hwords word List.mem_cons_self) c hc
    · obtain ⟨w, hw, hc⟩ := List.mem_flatMap.mp hc
      exact keptByCase_isWordChar.capitalWord (hwords w (List.mem_cons_of_mem _ hw)) c hc

end ApiRoutes.Text
