import ApiRoutes.Proofs.Text.WordChars

/-!
# Digits of cased names

Casing changes letters and drops what is neither letter nor digit; the ASCII digits of a name stay as
they are, in their order (`digits_pascal`). So a number at the end of a name can be read off its
Pascal casing, and names that differ in such a number only have different casings.
-/

namespace ApiRoutes

namespace Text

/-- The ASCII digits among some characters. -/
def digits (cs : List Char) : List Char := cs.filter Char.isDigit

@[simp] theorem digits_append (xs ys : List Char) : digits (xs ++ ys) = digits xs ++ digits ys :=
  List.filter_append xs ys

theorem digits_eq_nil {cs : List Char} (h : ∀ c ∈ cs, (!c.isDigit) = true) : digits cs = [] :=
  List.filter_eq_nil_iff.mpr fun c hc => by simpa using h c hc

theorem toNat_lt_of_isDigit {c : Char} (h : c.isDigit = true) : c.toNat < 0x80 :=
  Nat.lt_of_le_of_lt (isDigit_iff.mp h).2 (by decide)

theorem isAlphanumeric_of_isDigit {c : Char} (h : c.isDigit = true) : isAlphanumeric c = true := by
  simp [isAlphanumeric, toNat_lt_of_isDigit h, Char.isAlphanum, h]

/-- Leaving out what is neither letter nor digit keeps the digits. -/
theorem digits_filter_isAlphanumeric (cs : List Char) :
    digits (cs.filter isAlphanumeric) = digits cs := by
  rw [digits, digits, List.filter_filter]
  refine List.filter_congr fun c _ => ?_
  cases hdigit : c.isDigit with
  | false => rfl
  | true => rw [isAlphanumeric_of_isDigit hdigit]; rfl

/-! ## Casing -/

/-- No change of case makes a digit. -/
theorem keptByCase_not_isDigit : KeptByCase (fun c => !c.isDigit) where
  letter := fun c hc => by
    rw [Bool.not_eq_true', Bool.eq_false_iff, ne_eq, isDigit_iff]
    rw [Char.isAlpha, Bool.or_eq_true, isUpper_iff, isLower_iff] at hc
    omega
  beyond := fun c hc => by
    rw [Bool.not_eq_true', Bool.eq_false_iff, ne_eq, isDigit_iff]
    omega

/-- A digit has one case. -/
theorem case_of_isDigit {c : Char} (h : c.isDigit = true) :
    toLowercase c = [c] ∧ toUppercase c = [c] := by
  have hrange := isDigit_iff.mp h
  have hupper : ¬c.isUpper = true := by
    rw [isUpper_iff]
    omega
  have hlower : ¬c.isLower = true := by
    rw [isLower_iff]
    omega
  have hlow := toNat_lt_of_isDigit h
  rw [toLowercase, toUppercase, if_pos hlow, if_pos hlow, Char.toLower_eq_of_not_isUpper hupper,
    Char.toUpper_eq_of_not_isLower hlower]
  exact ⟨rfl, rfl⟩

theorem digits_toLowercase (c : Char) : digits (toLowercase c) = digits [c] := by
  by_cases h : c.isDigit = true
  · rw [(case_of_isDigit h).1]
  · have hkept : (!c.isDigit) = true := by simpa using h
    rw [digits_eq_nil fun d hd => keptByCase_not_isDigit.toLowercase hkept hd,
      digits_eq_nil (List.forall_mem_singleton.mpr hkept)]

theorem digits_toUppercase (c : Char) : digits (toUppercase c) = digits [c] := by
  by_cases h : c.isDigit = true
  · rw [(case_of_isDigit h).2]
  · have hkept : (!c.isDigit) = true := by simpa using h
    rw [digits_eq_nil fun d hd => keptByCase_not_isDigit.toUppercase hkept hd,
      digits_eq_nil (List.forall_mem_singleton.mpr hkept)]

theorem digits_lowerWord (word : List Char) : digits (lowerWord word) = digits word := by
  induction word using lowerWord.induct with
  | case1 => rfl
  | case2 => decide
  | case3 c cs hne ih =>
      rw [lowerWord, digits_append, digits_toLowercase, ih, ← digits_append]
      · rfl
      · exact hne

theorem digits_capitalWord (word : List Char) : digits (capitalWord word) = digits word := by
  cases word with
  | nil => rfl
  | cons c cs =>
      rw [capitalWord, digits_append, digits_toUppercase, digits_lowerWord, ← digits_append]
      rfl

/-- Pascal casing keeps the digits. -/
theorem digits_pascalCase (s : String) : digits (pascalCase s).toList = digits s.toList := by
  have hwords : ∀ words : List (List Char),
      digits (words.flatMap capitalWord) = digits words.flatten := by
    intro words
    induction words with
    | nil => rfl
    | cons word words ih =>
        rw [List.flatMap_cons, digits_append, digits_capitalWord, ih, ← digits_append,
          List.flatten_cons]
  rw [pascalCase, String.toList_ofList, hwords, flatten_casedWords, digits_filter_isAlphanumeric]

/-! ## Names -/

theorem digits_joinWith {separator : String} (hseparator : digits separator.toList = []) :
    ∀ items : List String,
      digits (joinWith separator items).toList = (items.map (digits ·.toList)).flatten
  | [] => rfl
  | [item] => by simp [joinWith]
  | item :: next :: items => by
      rw [joinWith, String.toList_append, String.toList_append, digits_append, digits_append,
        hseparator, List.append_nil, digits_joinWith hseparator (next :: items)]
      rfl

theorem digits_identifierWords (name : String) :
    digits (identifierWords name).toList = digits name.toList := by
  have hwords : (wordsBy (!isAlphanumeric ·) name.toList).flatten
      = name.toList.filter isAlphanumeric := by
    rw [flatten_wordsBy]
    simp only [Bool.not_not]
  rw [← digits_filter_isAlphanumeric name.toList, ← hwords, identifierWords]
  split
  · rename_i hnone
    rw [hnone]
    decide
  · rw [digits_joinWith (by decide), List.map_map, digits, List.filter_flatten]
    congr 1
    refine List.map_congr_left fun word _ => ?_
    simp [digits]

end Text

/-! ## Numbers -/

/-- A number can be read off its digits. -/
theorem repr_injective {k l : Nat} (h : (Nat.repr k).toList = (Nat.repr l).toList) : k = l := by
  have hread : ∀ n, Nat.ofDigitChars 10 (Nat.repr n).toList 0 = n := by
    intro n
    rw [Nat.toList_repr, Nat.ofDigitChars_toDigits (by decide) (by decide)]
  rw [← hread k, h, hread]

theorem digits_repr (n : Nat) : Text.digits (Nat.repr n).toList = (Nat.repr n).toList := by
  refine List.filter_eq_self.mpr fun c hc => ?_
  rw [Nat.toList_repr] at hc
  exact Nat.isDigit_of_mem_toDigits (by decide) (by decide) hc

/-- The Pascal casing of a name has the digits of the name. -/
theorem digits_pascal (name : String) :
    Text.digits (Casings.of name).pascal.toList = Text.digits name.toList := by
  show Text.digits (Text.pascalCase (identifierWords name)).toList = _
  rw [Text.digits_pascalCase, Text.digits_identifierWords]

end ApiRoutes
