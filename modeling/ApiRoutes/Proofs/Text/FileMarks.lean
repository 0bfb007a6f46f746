import ApiRoutes.Proofs.Text.Brackets

/-!
# Marks of files

Whether the fields of a type hold a file is looked for in its text: a colon, a blank and one of two
words are the *mark* of a file. A mark has no other characters than these, so that a character that
stops it can stand in no mark, and a text with such a character has a mark only if one of the two
parts around it does (`hasFileMark_append_stop`). All separators and brackets of type expressions are
such characters, up to blanks. Only the colon of a field is part of a mark, with what the field's type
begins with (`hasFileMark_field`).
-/

namespace ApiRoutes.Text

/-! ## Patterns and what stops them -/

section

variable {α : Type} {pattern xs ys : List α} {stop : α}

/-- A pattern begins only on one side of an element that it does not have. -/
theorem prefix_append_stop (hstop : stop ∉ pattern) :
    pattern <+: xs ++ stop :: ys ↔ pattern <+: xs := by
  refine ⟨fun h => ?_, fun h => h.trans (List.prefix_append _ _)⟩
  rcases List.prefix_or_prefix_of_prefix h (List.prefix_append xs (stop :: ys)) with hin | hover
  · exact hin
  · obtain ⟨rest, rfl⟩ := hover
    rw [List.prefix_append_right_inj] at h
    cases rest with
    | nil => exact (List.append_nil xs).symm ▸ List.prefix_rfl
    | cons first rest =>
        obtain ⟨rfl, -⟩ := List.cons_prefix_cons.mp h
        exact absurd (List.mem_append_right _ List.mem_cons_self) hstop

/-- A pattern is found only on one side of an element that it does not have. -/
theorem infix_append_stop (hstop : stop ∉ pattern) :
    pattern <:+: xs ++ stop :: ys ↔ pattern <:+: xs ∨ pattern <:+: ys := by
  constructor
  · induction xs with
    | nil =>
        rw [List.nil_append, List.infix_cons_iff]
        rintro (hhere | hlater)
        · have hnil : pattern <+: [] := (prefix_append_stop hstop).mp hhere
          exact .inl hnil.isInfix
        · exact .inr hlater
    | cons x xs ih =>
        rw [List.cons_append, List.infix_cons_iff, List.infix_cons_iff]
        rintro (hhere | hlater)
        · exact .inl (.inl ((prefix_append_stop hstop).mp hhere))
        · exact (ih hlater).imp_left .inr
  · rintro (hleft | hright)
    · exact hleft.trans (List.prefix_append _ _).isInfix
    · exact hright.trans ((List.suffix_cons _ _).trans (List.suffix_append _ _)).isInfix

theorem infix_cons_stop (hstop : stop ∉ pattern) :
    pattern <:+: stop :: ys ↔ pattern <:+: ys := by
  have hsides : pattern <:+: [] ++ stop :: ys ↔ _ := infix_append_stop hstop
  refine hsides.trans (or_iff_right_of_imp fun hnil => ?_)
  rw [List.infix_nil.mp hnil]
  exact List.nil_infix

end

section

variable {pattern : List Char} (hback : '\\' ∉ pattern) (hquote : '"' ∉ pattern)
include hback hquote

/-- A pattern without characters that are escaped begins a quoted text if it begins the text. -/
theorem prefix_escapeQuoted {cs : List Char} : pattern <+: escapeQuoted cs ↔ pattern <+: cs := by
  induction cs generalizing pattern with
  | nil => rfl
  | cons c cs ih =>
      cases pattern with
      | nil => simp
      | cons p pattern =>
          obtain ⟨hp, hback⟩ := not_or.mp (mt List.mem_cons.mpr hback)
          obtain ⟨hp', hquote⟩ := not_or.mp (mt List.mem_cons.mpr hquote)
          unfold escapeQuoted
          split
          · rename_i hescaped
            have hne : p ≠ c := by
              rintro rfl
              simp [Ne.symm hp, Ne.symm hp'] at hescaped
            simp [List.cons_prefix_cons, hne, Ne.symm hp]
          · rw [List.cons_prefix_cons, List.cons_prefix_cons, ih hback hquote]

/-- And it is found in it if it is found in the text. -/
theorem infix_escapeQuoted {cs : List Char} : pattern <:+: escapeQuoted cs ↔ pattern <:+: cs := by
  induction cs with
  | nil => rfl
  | cons c cs ih =>
      by_cases hescaped : c = '\\' ∨ c = '"'
      · have hc : c ∉ pattern := by
          rcases hescaped with rfl | rfl
          · exact hback
          · exact hquote
        have hcons : escapeQuoted (c :: cs) = '\\' :: c :: escapeQuoted cs := by
          simp [escapeQuoted, hescaped]
        rw [hcons, infix_cons_stop hback, infix_cons_stop hc, infix_cons_stop hc, ih]
      · have hcons : escapeQuoted (c :: cs) = c :: escapeQuoted cs := by
          simp [escapeQuoted, hescaped]
        rw [hcons, List.infix_cons_iff, List.infix_cons_iff, ih, ← hcons,
          prefix_escapeQuoted hback hquote]

end

/-! ## Marks -/

/-- The words that stand for a file. -/
def fileWords : List String := ["File", "Blob"]

/-- A word after the colon of a field. -/
def mark (word : String) : List Char := ':' :: ' ' :: word.toList

/-- A text with the mark of a file. -/
def HasFileMark (cs : List Char) : Prop := ∃ word ∈ fileWords, mark word <:+: cs

/-- A text that begins with the word for a file. -/
def BeginsWithFile (cs : List Char) : Prop := ∃ word ∈ fileWords, word.toList <+: cs

instance (cs : List Char) : Decidable (HasFileMark cs) :=
  inferInstanceAs (Decidable (∃ word ∈ fileWords, _))

instance (cs : List Char) : Decidable (BeginsWithFile cs) :=
  inferInstanceAs (Decidable (∃ word ∈ fileWords, _))

/-- A character that no mark has. -/
def isStop (c : Char) : Bool := !(c = ':' || c = ' ' || c.isAlpha)

theorem isAlpha_of_mem_fileWord {word : String} (hword : word ∈ fileWords) :
    ∀ c ∈ word.toList, c.isAlpha = true :=
  List.all_eq_true.mp (List.all_eq_true.mp (by decide : fileWords.all (·.toList.all Char.isAlpha))
    word hword)

theorem not_mem_mark {word : String} (hword : word ∈ fileWords) {c : Char}
    (hstop : isStop c = true) : c ∉ mark word := by
  simp only [isStop, Bool.not_eq_true', Bool.or_eq_false_iff, decide_eq_false_iff_not] at hstop
  obtain ⟨⟨hcolon, hblank⟩, halpha⟩ := hstop
  intro hmem
  rcases List.mem_cons.mp hmem with rfl | hmem
  · exact hcolon rfl
  rcases List.mem_cons.mp hmem with rfl | hmem
  · exact hblank rfl
  · rw [isAlpha_of_mem_fileWord hword c hmem] at halpha
    cases halpha

section

variable {xs ys : List Char} {stop : Char}

theorem hasFileMark_append_stop (hstop : isStop stop = true) :
    HasFileMark (xs ++ stop :: ys) ↔ HasFileMark xs ∨ HasFileMark ys := by
  constructor
  · rintro ⟨word, hword, hmark⟩
    exact ((infix_append_stop (not_mem_mark hword hstop)).mp hmark).imp
      (fun h => ⟨word, hword, h⟩) fun h => ⟨word, hword, h⟩
  · rintro (⟨word, hword, hmark⟩ | ⟨word, hword, hmark⟩)
    · exact ⟨word, hword, (infix_append_stop (not_mem_mark hword hstop)).mpr (.inl hmark)⟩
    · exact ⟨word, hword, (infix_append_stop (not_mem_mark hword hstop)).mpr (.inr hmark)⟩

theorem hasFileMark_cons_stop (hstop : isStop stop = true) :
    HasFileMark (stop :: ys) ↔ HasFileMark ys :=
  exists_congr fun _ => and_congr_right fun hword => infix_cons_stop (not_mem_mark hword hstop)

theorem hasFileMark_concat_stop (hstop : isStop stop = true) :
    HasFileMark (xs ++ [stop]) ↔ HasFileMark xs := by
  rw [hasFileMark_append_stop hstop]
  exact or_iff_left (by decide)

/-- A blank before a text is in none of its marks. -/
theorem hasFileMark_cons_blank : HasFileMark (' ' :: ys) ↔ HasFileMark ys := by
  refine exists_congr fun word => and_congr_right fun _ => ?_
  rw [List.infix_cons_iff]
  refine or_iff_right fun hhere => ?_
  exact absurd (List.cons_prefix_cons.mp hhere).1 (by decide)

/-- Nor is one after it. -/
theorem hasFileMark_concat_blank : HasFileMark (xs ++ [' ']) ↔ HasFileMark xs := by
  refine exists_congr fun word => and_congr_right fun hword => ?_
  rw [List.infix_concat_iff]
  refine or_iff_right fun ⟨start, hstart⟩ => ?_
  have hends : ∀ word ∈ fileWords,
      (mark word).getLast? = some 'e' ∨ (mark word).getLast? = some 'b' := by decide
  have hlast := congrArg List.getLast? hstart
  rw [List.getLast?_concat, List.getLast?_append] at hlast
  rcases hends word hword with hend | hend <;>
    exact absurd (Option.some.inj (hend ▸ hlast)) (by decide)

theorem not_hasFileMark_nil : ¬ HasFileMark [] := by decide

/-- A mark in a part of a text is one in the text. -/
theorem HasFileMark.mono (h : HasFileMark xs) (hwithin : xs <:+: ys) : HasFileMark ys := by
  obtain ⟨word, hword, hmark⟩ := h
  exact ⟨word, hword, hmark.trans hwithin⟩

/-- A text with a mark has a colon. -/
theorem HasFileMark.colon_mem (h : HasFileMark xs) : ':' ∈ xs := by
  obtain ⟨word, -, hmark⟩ := h
  exact hmark.mem List.mem_cons_self

/-! ### Fields and quotes -/

/-- The colon of a field is the one of a mark if the type begins with a file. -/
theorem hasFileMark_field :
    HasFileMark (xs ++ ':' :: ' ' :: ys)
      ↔ HasFileMark xs ∨ BeginsWithFile ys ∨ HasFileMark ys := by
  constructor
  · rintro ⟨word, hword, hmark⟩
    have hin : mark word <:+: ':' :: ' ' :: ys → BeginsWithFile ys ∨ HasFileMark ys := by
      intro hin
      rcases List.infix_cons_iff.mp hin with hhere | hlater
      · exact .inl ⟨word, hword, (List.cons_prefix_cons.mp (List.cons_prefix_cons.mp hhere).2).2⟩
      · exact .inr (hasFileMark_cons_blank.mp ⟨word, hword, hlater⟩)
    rcases List.infix_append_iff.mp hmark with hleft | hright | ⟨start, rest, hsplit, hstart, hrest⟩
    · exact .inl ⟨word, hword, hleft⟩
    · exact .inr (hin hright)
    · -- a mark has a colon only where it begins
      cases start with
      | nil => exact .inr (hin (hsplit ▸ hrest.isInfix))
      | cons first start =>
          obtain ⟨-, hsplit'⟩ := List.cons.inj hsplit
          cases rest with
          | nil => exact .inl ⟨word, hword, hsplit ▸ (List.append_nil _).symm ▸ hstart.isInfix⟩
          | cons next rest =>
              obtain ⟨rfl, -⟩ := List.cons_prefix_cons.mp hrest
              have hcolon : ':' ∈ ' ' :: word.toList := by rw [hsplit']; simp
              rcases List.mem_cons.mp hcolon with hblank | hletter
              · exact absurd hblank (by decide)
              · exact absurd (isAlpha_of_mem_fileWord hword _ hletter) (by decide)
  · rintro (hleft | ⟨word, hword, hbegins⟩ | hright)
    · exact hleft.mono (List.prefix_append _ _).isInfix
    · have hhere : mark word <+: ':' :: ' ' :: ys :=
        List.cons_prefix_cons.mpr ⟨rfl, List.cons_prefix_cons.mpr ⟨rfl, hbegins⟩⟩
      exact ⟨word, hword, hhere.isInfix.trans (List.suffix_append _ _).isInfix⟩
    · exact (hasFileMark_cons_blank.mpr hright).mono
        ((List.suffix_cons _ _).trans (List.suffix_append _ _)).isInfix

theorem hasFileMark_quoted (s : String) : HasFileMark (quoted s).toList ↔ HasFileMark s.toList := by
  rw [toList_quoted, hasFileMark_cons_stop (by decide), hasFileMark_concat_stop (by decide)]
  exact exists_congr fun _ => and_congr_right fun hword =>
    infix_escapeQuoted (not_mem_mark hword (by decide)) (not_mem_mark hword (by decide))

theorem hasFileMark_propertyKey (name : String) :
    HasFileMark (propertyKey name).toList ↔ HasFileMark name.toList := by
  unfold propertyKey
  split
  · rfl
  · exact hasFileMark_quoted name

/-! ### Joined texts -/

theorem hasFileMark_enclosed {opening closing : Char} (hopening : isStop opening = true)
    (hclosing : isStop closing = true) :
    HasFileMark (opening :: (xs ++ [closing])) ↔ HasFileMark xs := by
  rw [hasFileMark_cons_stop hopening, hasFileMark_concat_stop hclosing]

end

/-- A text that no mark reaches into. -/
def Separates (separator : String) : Prop :=
  ∀ xs ys, HasFileMark (xs ++ separator.toList ++ ys) ↔ HasFileMark xs ∨ HasFileMark ys

/-- A character that no mark has separates, between blanks. -/
theorem separates_of_stop {separator : String} {stop : Char}
    (hseparator : separator.toList = [' ', stop, ' ']) (hstop : isStop stop = true) :
    Separates separator := by
  intro xs ys
  have hchars : xs ++ separator.toList ++ ys = (xs ++ [' ']) ++ stop :: ' ' :: ys := by
    simp [hseparator]
  rw [hchars, hasFileMark_append_stop hstop, hasFileMark_concat_blank, hasFileMark_cons_blank]

theorem separates_bar : Separates " | " := separates_of_stop rfl (by decide)

theorem separates_and : Separates " & " := separates_of_stop rfl (by decide)

theorem separates_semicolon : Separates "; " := by
  intro xs ys
  have hchars : xs ++ "; ".toList ++ ys = xs ++ ';' :: ' ' :: ys := by simp
  rw [hchars, hasFileMark_append_stop (by decide), hasFileMark_cons_blank]

/-- The marks of joined texts are those of the texts. -/
theorem Separates.hasFileMark_joinWith {separator : String} (h : Separates separator) :
    ∀ items : List String, HasFileMark (joinWith separator items).toList
      ↔ ∃ item ∈ items, HasFileMark item.toList
  | [] => iff_of_false not_hasFileMark_nil (by simp)
  | [item] => by simp [joinWith]
  | item :: next :: rest => by
      rw [joinWith, String.toList_append, String.toList_append, h,
        h.hasFileMark_joinWith (next :: rest)]
      simp

theorem Separates.hasFileMark_joinDistinct {separator : String} (h : Separates separator)
    (items : List String) : HasFileMark (joinDistinct separator items).toList
      ↔ ∃ item ∈ items, HasFileMark item.toList := by
  rw [joinDistinct, h.hasFileMark_joinWith]
  simp only [mem_distinct]

/-! ## What a text begins with -/

theorem beginsWithFile_append {xs ys : List Char} {c : Char} (hc : c.isAlpha = false) :
    BeginsWithFile (xs ++ c :: ys) ↔ BeginsWithFile xs := by
  refine exists_congr fun _ => and_congr_right fun hword => prefix_append_stop fun hmem => ?_
  rw [isAlpha_of_mem_fileWord hword c hmem] at hc
  cases hc

theorem not_beginsWithFile_cons {cs : List Char} {c : Char} (hc : c ≠ 'F' ∧ c ≠ 'B') :
    ¬ BeginsWithFile (c :: cs) := by
  rintro ⟨word, hword, hbegins⟩
  simp only [fileWords, List.mem_cons, List.not_mem_nil, or_false] at hword
  rcases hword with rfl | rfl
  · have hchars : 'F' :: ['i', 'l', 'e'] <+: c :: cs := hbegins
    exact hc.1 (List.cons_prefix_cons.mp hchars).1.symm
  · have hchars : 'B' :: ['l', 'o', 'b'] <+: c :: cs := hbegins
    exact hc.2 (List.cons_prefix_cons.mp hchars).1.symm

/-- Joined texts begin with what the first one begins with. -/
theorem beginsWithFile_joinDistinct {separator : String} {c : Char} {cs : List Char}
    (hseparator : separator.toList = c :: cs) (hc : c.isAlpha = false) (item : String)
    (items : List String) :
    BeginsWithFile (joinDistinct separator (item :: items)).toList
      ↔ BeginsWithFile item.toList := by
  obtain ⟨rest, hrest⟩ := exists_distinct_cons item items
  rw [joinDistinct, hrest]
  cases rest with
  | nil => rfl
  | cons next rest =>
      rw [joinWith, String.toList_append, String.toList_append, hseparator, List.append_assoc,
        List.cons_append, beginsWithFile_append hc]

end ApiRoutes.Text
