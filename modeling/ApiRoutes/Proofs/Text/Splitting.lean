import ApiRoutes.Proofs.Text.WordChars

/-!
# Words across separators

A separator between two texts takes no part in their words: the words of the whole are those of the
parts (`wordsBy_append_cons`), also where several texts are joined (`wordsBy_intercalate`). Letters and
digits make up the words of a name, so its Pascal casing is that of the part before a separator
followed by that of the part behind it (`pascal_append`), unless one of them has no letter or digit at
all.
-/

namespace ApiRoutes.Text

/-! ## Cutting at a separator -/

section

variable {isSeparator : Char → Bool} {c : Char} {cs : List Char}

theorem splitBy_ne_nil (isSeparator : Char → Bool) (cs : List Char) :
    splitBy isSeparator cs ≠ [] := by
  cases cs with
  | nil => exact List.cons_ne_nil _ _
  | cons c cs =>
      unfold splitBy
      split
      · exact List.cons_ne_nil _ _
      · split <;> exact List.cons_ne_nil _ _

theorem splitBy_cons_of_sep (h : isSeparator c = true) (cs : List Char) :
    splitBy isSeparator (c :: cs) = [] :: splitBy isSeparator cs := by
  rw [splitBy, if_pos h]

/-- A character that is no separator belongs to the first piece. -/
theorem splitBy_cons_of_not_sep (h : isSeparator c = false) {piece : List Char}
    {pieces : List (List Char)} (hsplit : splitBy isSeparator cs = piece :: pieces) :
    splitBy isSeparator (c :: cs) = (c :: piece) :: pieces := by
  rw [splitBy, if_neg (by simp [h]), hsplit]

theorem splitBy_append_cons (h : isSeparator c = true) (before after : List Char) :
    splitBy isSeparator (before ++ c :: after)
      = splitBy isSeparator before ++ splitBy isSeparator after := by
  induction before with
  | nil => exact splitBy_cons_of_sep h after
  | cons d before ih =>
      cases hd : isSeparator d with
      | true => rw [List.cons_append, splitBy_cons_of_sep hd, splitBy_cons_of_sep hd, ih]; rfl
      | false =>
          obtain ⟨piece, pieces, hsplit⟩ :=
            List.exists_cons_of_ne_nil (splitBy_ne_nil isSeparator before)
          rw [hsplit] at ih
          rw [List.cons_append, splitBy_cons_of_not_sep hd ih, splitBy_cons_of_not_sep hd hsplit]
          rfl

theorem splitBy_of_forall (h : ∀ c ∈ cs, isSeparator c = false) :
    splitBy isSeparator cs = [cs] := by
  induction cs with
  | nil => rfl
  | cons c cs ih =>
      obtain ⟨hc, hcs⟩ := List.forall_mem_cons.mp h
      exact splitBy_cons_of_not_sep hc (ih hcs)

theorem wordsBy_append_cons (h : isSeparator c = true) (before after : List Char) :
    wordsBy isSeparator (before ++ c :: after)
      = wordsBy isSeparator before ++ wordsBy isSeparator after := by
  rw [wordsBy, splitBy_append_cons h, List.filter_append]
  rfl

/-- A text without separators is one word. -/
theorem wordsBy_of_forall (h : ∀ c ∈ cs, isSeparator c = false) (hne : cs ≠ []) :
    wordsBy isSeparator cs = [cs] := by
  rw [wordsBy, splitBy_of_forall h]
  simp [hne]

theorem wordsBy_eq_nil_iff : wordsBy isSeparator cs = [] ↔ ∀ c ∈ cs, isSeparator c = true := by
  constructor
  · intro h
    have hflat := flatten_wordsBy isSeparator cs
    rw [h, List.flatten_nil] at hflat
    intro c hc
    simpa using List.filter_eq_nil_iff.mp hflat.symm c hc
  · intro h
    have hflat := flatten_wordsBy isSeparator cs
    rw [List.filter_eq_nil_iff.mpr fun c hc => by simp [h c hc]] at hflat
    refine List.eq_nil_iff_forall_not_mem.mpr fun word hword => ?_
    have hnonempty := (List.mem_filter.mp hword).2
    rw [List.flatten_eq_nil_iff.mp hflat word hword] at hnonempty
    exact absurd hnonempty (by decide)

theorem mem_of_mem_wordsBy {word : List Char} (hword : word ∈ wordsBy isSeparator cs)
    (hc : c ∈ word) : c ∈ cs := by
  have hflat : c ∈ (wordsBy isSeparator cs).flatten := List.mem_flatten.mpr ⟨word, hword, hc⟩
  rw [flatten_wordsBy] at hflat
  exact (List.mem_filter.mp hflat).1

/-- The words of joined texts are the words of each. -/
theorem wordsBy_intercalate (h : isSeparator c = true) (texts : List (List Char)) :
    wordsBy isSeparator ([c].intercalate texts) = texts.flatMap (wordsBy isSeparator) := by
  induction texts with
  | nil => rfl
  | cons text texts ih =>
      cases texts with
      | nil => simp [List.intercalate_singleton]
      | cons next rest =>
          rw [List.intercalate_cons_cons, List.append_assoc, List.singleton_append,
            wordsBy_append_cons h, ih, ← List.flatMap_cons]

end

theorem joinWith_append {separator : String} {ys : List String} (hys : ys ≠ []) :
    ∀ {xs : List String}, xs ≠ [] →
      joinWith separator (xs ++ ys) = joinWith separator xs ++ separator ++ joinWith separator ys
  | [x], _ => by
      obtain ⟨y, rest, rfl⟩ := List.exists_cons_of_ne_nil hys
      rfl
  | x :: next :: xs, _ => by
      have ih : joinWith separator (next :: (xs ++ ys))
          = joinWith separator (next :: xs) ++ separator ++ joinWith separator ys :=
        joinWith_append hys (List.cons_ne_nil next xs)
      rw [List.cons_append, List.cons_append, joinWith, ih, joinWith]
      simp only [String.append_assoc]

/-! ## Names of several parts -/

/-- A text without letters and digits. -/
def IsWordless (s : String) : Prop := ∀ c ∈ s.toList, isAlphanumeric c = false

theorem isWordless_iff {s : String} :
    IsWordless s ↔ wordsBy (!isAlphanumeric ·) s.toList = [] := by
  rw [wordsBy_eq_nil_iff]
  simp only [IsWordless, Bool.not_eq_true']

theorem pascalCase_append (s t : String) :
    pascalCase (s ++ "_" ++ t) = pascalCase s ++ pascalCase t := by
  have hsplit : casedWords (s ++ "_" ++ t) = casedWords s ++ casedWords t := by
    have hlist : (s ++ "_" ++ t).toList = s.toList ++ '_' :: t.toList := by simp
    rw [casedWords, hlist, splitBy_append_cons (by decide), List.flatMap_append]
    rfl
  rw [pascalCase, hsplit, List.flatMap_append, String.ofList_append]
  rfl

end ApiRoutes.Text

namespace ApiRoutes

open Text

variable {name before last : String} {c : Char}

theorem identifierWords_congr
    (h : wordsBy (!isAlphanumeric ·) name.toList = wordsBy (!isAlphanumeric ·) last.toList) :
    identifierWords name = identifierWords last := by
  rw [identifierWords, identifierWords, h]

theorem identifierWords_of_not_wordless (h : ¬ IsWordless name) :
    identifierWords name
      = joinWith "_" ((wordsBy (!isAlphanumeric ·) name.toList).map String.ofList) := by
  rw [isWordless_iff] at h
  unfold identifierWords
  split
  · contradiction
  · rfl

theorem identifierWords_of_wordless (h : IsWordless name) : identifierWords name = "unnamed" := by
  rw [isWordless_iff] at h
  rw [identifierWords, h]

section

variable (hc : isAlphanumeric c = false) (hname : name.toList = before.toList ++ c :: last.toList)
include hc hname

theorem wordsBy_of_parts : wordsBy (!isAlphanumeric ·) name.toList =
    wordsBy (!isAlphanumeric ·) before.toList ++ wordsBy (!isAlphanumeric ·) last.toList := by
  rw [hname, wordsBy_append_cons (by simp [hc])]

/-- Without letters and digits before the separator a name is cased as its last part. -/
theorem pascal_of_wordless_before (h : IsWordless before) :
    (Casings.of name).pascal = (Casings.of last).pascal := by
  have hwords := wordsBy_of_parts hc hname
  rw [isWordless_iff.mp h, List.nil_append] at hwords
  exact congrArg pascalCase (identifierWords_congr hwords)

/-- Without letters and digits behind the separator it is cased as its first part. -/
theorem pascal_of_wordless_last (h : IsWordless last) :
    (Casings.of name).pascal = (Casings.of before).pascal := by
  have hwords := wordsBy_of_parts hc hname
  rw [isWordless_iff.mp h, List.append_nil] at hwords
  exact congrArg pascalCase (identifierWords_congr hwords)

/-- Otherwise both parts are cased, one after the other. -/
theorem pascal_append (hbefore : ¬ IsWordless before) (hlast : ¬ IsWordless last) :
    (Casings.of name).pascal = (Casings.of before).pascal ++ (Casings.of last).pascal := by
  have hwords := wordsBy_of_parts hc hname
  have hwhole : ¬ IsWordless name := by
    rw [isWordless_iff, hwords, List.append_eq_nil_iff, not_and_or]
    exact .inl (mt isWordless_iff.mpr hbefore)
  have hjoined : identifierWords name = identifierWords before ++ "_" ++ identifierWords last := by
    rw [identifierWords_of_not_wordless hwhole, identifierWords_of_not_wordless hbefore,
      identifierWords_of_not_wordless hlast, hwords, List.map_append, joinWith_append]
    · exact mt List.map_eq_nil_iff.mp (mt isWordless_iff.mpr hlast)
    · exact mt List.map_eq_nil_iff.mp (mt isWordless_iff.mpr hbefore)
  show pascalCase (identifierWords name) = _
  rw [hjoined, pascalCase_append]
  rfl

end

end ApiRoutes
