import ApiRoutes.Proofs.Text.Alternatives

/-!
# Inside and outside of brackets

What a reader of a type expression meets outside brackets and quotes is the text's `outer` part.
A text is *balanced* if a reader that has brackets open never gets out of them in it, and has as many
open after it. So nothing of a balanced text is outer once it stands in brackets
(`Balanced.outer_enclosed`), and the outer part of balanced texts that are joined consists of theirs
(`mem_outer_joinWith`, `infix_outer_joinWith`, `infix_outer_separator`).

To be balanced, like to be closed, is a property that stands all operations type expressions are
made with (`KeptByRendering`).
-/

namespace ApiRoutes.Text

/-! ## What rendering keeps -/

/-- A property of texts of plain characters that stays when texts are put next to each other, in
brackets or in quotes, and with bars between them. -/
structure KeptByRendering (P : String → Prop) : Prop where
  plain : ∀ {s : String}, s.toList.all isPlainChar = true → P s
  bar : P bar
  quoted : ∀ s : String, P (quoted s)
  append : ∀ {s t : String}, P s → P t → P (s ++ t)
  enclosed : ∀ {s : String} {opening closing : Char}, isOpening opening = true →
    isClosing closing = true → P s →
    P (String.singleton opening ++ s ++ String.singleton closing)

theorem keptByRendering_closed : KeptByRendering Closed where
  plain := fun h => closed_of_isPlainChar (List.all_eq_true.mp h)
  bar := by decide
  quoted := closed_quoted
  append := Closed.append
  enclosed := Closed.enclosed

/-- A record type is a name before what is in its brackets. -/
theorem record_eq (s : String) :
    "Record<string, " ++ s ++ ">" = "Record" ++ ("<" ++ ("string, " ++ s) ++ ">") := by
  simp only [← String.append_assoc]
  rfl

/-- An object type has its fields between blanks in braces. -/
theorem braces_eq (s : String) :
    "\x7b " ++ s ++ " \x7d" = "\x7b" ++ (" " ++ s ++ " ") ++ "\x7d" := by
  refine String.toList_injective ?_
  simp

namespace KeptByRendering

variable {P : String → Prop} (hP : KeptByRendering P)
include hP

theorem joinWith {separator : String} (hseparator : P separator) :
    ∀ {items : List String}, (∀ item ∈ items, P item) → P (joinWith separator items)
  | [], _ => hP.plain rfl
  | [item], h => h item (List.mem_singleton_self item)
  | item :: _ :: _, h =>
      hP.append (hP.append (h item List.mem_cons_self) hseparator)
        (joinWith hseparator fun other hother => h other (List.mem_cons_of_mem _ hother))

theorem joinDistinct {separator : String} (hseparator : P separator) {items : List String}
    (h : ∀ item ∈ items, P item) : P (joinDistinct separator items) :=
  hP.joinWith hseparator fun item hitem => h item (mem_distinct.mp hitem)

theorem parens {s : String} (h : P s) : P ("(" ++ s ++ ")") :=
  @enclosed P hP s '(' ')' (by decide) (by decide) h

theorem brackets : P "[]" :=
  @enclosed P hP "" '[' ']' (by decide) (by decide) (hP.plain (by decide))

theorem record {s : String} (h : P s) : P ("Record<string, " ++ s ++ ">") := by
  rw [record_eq]
  exact hP.append (hP.plain (by decide))
    (@enclosed P hP _ '<' '>' (by decide) (by decide) (hP.append (hP.plain (by decide)) h))

theorem braces {s : String} (h : P s) : P ("\x7b " ++ s ++ " \x7d") := by
  have hblank : P " " := hP.plain (by decide)
  rw [braces_eq]
  exact @enclosed P hP _ '\x7b' '\x7d' (by decide) (by decide) (hP.append (hP.append hblank h) hblank)

end KeptByRendering

/-! ## Outer characters -/

/-- What a reader meets outside brackets and quotes. The character that opens a bracket or a literal
is still outside, so that the outer characters before and after one are not next to each other. -/
def Reading.outer (reading : Reading) : List Char → List Char
  | [] => []
  | c :: cs =>
    if reading = {} then c :: (reading.next c).outer cs else (reading.next c).outer cs

/-- The characters of a text that are outside brackets and quotes. -/
def outer (s : String) : List Char := ({} : Reading).outer s.toList

/-- Whether a text contains another one outside brackets and quotes. -/
def HasOutside (part s : String) : Prop := part.toList <:+: outer s

instance (part s : String) : Decidable (HasOutside part s) := inferInstanceAs (Decidable (_ <:+: _))

theorem Reading.outer_append (reading : Reading) (xs ys : List Char) :
    reading.outer (xs ++ ys) = reading.outer xs ++ (reading.after xs).outer ys := by
  induction xs generalizing reading with
  | nil => rfl
  | cons x xs ih =>
      rw [List.cons_append, outer, outer, ih]
      split <;> rfl

theorem Reading.mem_of_mem_outer {reading : Reading} {c : Char} {cs : List Char}
    (h : c ∈ reading.outer cs) : c ∈ cs := by
  induction cs generalizing reading with
  | nil => exact h
  | cons d ds ih =>
      unfold outer at h
      split at h
      · rcases List.mem_cons.mp h with rfl | hrest
        · exact List.mem_cons_self
        · exact List.mem_cons_of_mem _ (ih hrest)
      · exact List.mem_cons_of_mem _ (ih h)

theorem Reading.outer_cons_of_ne {reading : Reading} (h : reading ≠ {}) (c : Char)
    (cs : List Char) : reading.outer (c :: cs) = (reading.next c).outer cs :=
  if_neg h

theorem Reading.deeper_ne (mode : ReadingMode) (d : Nat) : (⟨mode, d + 1⟩ : Reading) ≠ {} := by
  simp

theorem Reading.quoted_ne (d : Nat) : (⟨.quoted, d⟩ : Reading) ≠ {} := by simp

theorem Reading.outer_escapeQuoted (d : Nat) (cs : List Char) :
    Reading.outer ⟨.quoted, d⟩ (escapeQuoted cs) = [] := by
  induction cs with
  | nil => rfl
  | cons c cs ih =>
      unfold escapeQuoted
      split
      · -- the character stands after a backslash
        rw [outer_cons_of_ne (quoted_ne d), outer_cons_of_ne (by simp [next])]
        exact ih
      · rename_i hplain
        obtain ⟨hback, hquote⟩ : c ≠ '\\' ∧ c ≠ '"' := by simpa using hplain
        have hnext : Reading.next ⟨.quoted, d⟩ c = ⟨.quoted, d⟩ := by
          simp [Reading.next, hback, hquote]
        rw [outer_cons_of_ne (quoted_ne d), hnext, ih]

/-! ## Balanced texts -/

/-- A text after which a reader has as many brackets open as before, and during which a reader that
has some open is never outside. -/
structure Balanced (s : String) : Prop where
  returns : ∀ d, Reading.after ⟨.plain, d⟩ s.toList = ⟨.plain, d⟩
  stays : ∀ d, Reading.outer ⟨.plain, d + 1⟩ s.toList = []

/-- A balanced text in parentheses. -/
def Parenthesised (s : String) : Prop := ∃ inner, s = "(" ++ inner ++ ")" ∧ Balanced inner

theorem Reading.outer_of_isPlainChar {cs : List Char} (h : ∀ c ∈ cs, isPlainChar c = true)
    (d : Nat) : Reading.outer ⟨.plain, d + 1⟩ cs = [] := by
  induction cs with
  | nil => rfl
  | cons c cs ih =>
      obtain ⟨hc, hcs⟩ := List.forall_mem_cons.mp h
      rw [outer_cons_of_ne (deeper_ne _ d), next_of_isPlainChar hc, ih hcs]

theorem balanced_of_isPlainChar {s : String} (h : s.toList.all isPlainChar = true) :
    Balanced s where
  returns := Reading.after_of_isPlainChar (List.all_eq_true.mp h)
  stays := Reading.outer_of_isPlainChar (List.all_eq_true.mp h)

theorem toList_quoted (s : String) : (quoted s).toList = '"' :: (escapeQuoted s.toList ++ ['"']) := by
  simp [quoted, escape]

theorem balanced_quoted (s : String) : Balanced (quoted s) where
  returns := fun d => by
    rw [toList_quoted]
    show Reading.after ⟨.quoted, d⟩ (escapeQuoted s.toList ++ ['"']) = ⟨.plain, d⟩
    rw [Reading.after_append, Reading.after_escapeQuoted]
    rfl
  stays := fun d => by
    rw [toList_quoted, Reading.outer_cons_of_ne (Reading.deeper_ne _ d)]
    show Reading.outer ⟨.quoted, d + 1⟩ (escapeQuoted s.toList ++ ['"']) = []
    rw [Reading.outer_append, Reading.outer_escapeQuoted, Reading.after_escapeQuoted]
    rfl

theorem Balanced.append {s t : String} (hs : Balanced s) (ht : Balanced t) : Balanced (s ++ t) where
  returns := fun d => by
    rw [String.toList_append, Reading.after_append, hs.returns, ht.returns]
  stays := fun d => by
    rw [String.toList_append, Reading.outer_append, hs.stays, hs.returns, ht.stays,
      List.nil_append]

theorem toList_enclosed (opening closing : Char) (s : String) :
    (String.singleton opening ++ s ++ String.singleton closing).toList
      = opening :: (s.toList ++ [closing]) := by
  simp

theorem Balanced.enclosed {s : String} {opening closing : Char}
    (hopening : isOpening opening = true) (hclosing : isClosing closing = true) (h : Balanced s) :
    Balanced (String.singleton opening ++ s ++ String.singleton closing) where
  returns := fun d => by
    rw [toList_enclosed]
    show Reading.after (Reading.next ⟨.plain, d⟩ opening) (s.toList ++ [closing]) = ⟨.plain, d⟩
    rw [Reading.next_opening hopening, Reading.after_append, h.returns]
    exact Reading.next_closing hclosing (d + 1)
  stays := fun d => by
    rw [toList_enclosed, Reading.outer_cons_of_ne (Reading.deeper_ne _ d),
      Reading.next_opening hopening, Reading.outer_append, h.stays, h.returns, List.nil_append]
    exact Reading.outer_cons_of_ne (Reading.deeper_ne _ (d + 1)) closing []

/-- Of what is in brackets only the opening one is outside. -/
theorem Balanced.outer_enclosed {s : String} (h : Balanced s) (opening closing : Char)
    (hopening : isOpening opening = true) :
    outer (String.singleton opening ++ s ++ String.singleton closing) = [opening] := by
  rw [outer, toList_enclosed]
  show opening :: Reading.outer (Reading.next ⟨.plain, 0⟩ opening) (s.toList ++ [closing]) = _
  rw [Reading.next_opening hopening, Reading.outer_append, h.stays, h.returns, List.nil_append,
    Reading.outer_cons_of_ne (Reading.deeper_ne _ 0)]
  rfl

theorem keptByRendering_balanced : KeptByRendering Balanced where
  plain := balanced_of_isPlainChar
  bar := ⟨fun _ => rfl, fun _ => rfl⟩
  quoted := balanced_quoted
  append := Balanced.append
  enclosed := Balanced.enclosed

/-! ## The outer part of a text -/

theorem outer_append {s : String} (h : Balanced s) (t : String) :
    outer (s ++ t) = outer s ++ outer t := by
  rw [outer, String.toList_append, Reading.outer_append, h.returns 0]
  rfl

theorem outer_quoted (s : String) : outer (quoted s) = ['"'] := by
  rw [outer, toList_quoted]
  show '"' :: Reading.outer ⟨.quoted, 0⟩ (escapeQuoted s.toList ++ ['"']) = ['"']
  rw [Reading.outer_append, Reading.outer_escapeQuoted, Reading.after_escapeQuoted]
  rfl

theorem outer_parens {s : String} (h : Balanced s) : outer ("(" ++ s ++ ")") = ['('] :=
  h.outer_enclosed '(' ')' (by decide)

theorem outer_record {s : String} (h : Balanced s) :
    outer ("Record<string, " ++ s ++ ">") = "Record<".toList := by
  have hvalues : Balanced ("string, " ++ s) := (balanced_of_isPlainChar (by decide)).append h
  rw [record_eq, outer_append (balanced_of_isPlainChar (by decide))]
  exact congrArg _ (hvalues.outer_enclosed '<' '>' (by decide))

theorem outer_braces {s : String} (h : Balanced s) :
    outer ("\x7b " ++ s ++ " \x7d") = ['\x7b'] := by
  have hblank : Balanced " " := balanced_of_isPlainChar (by decide)
  rw [braces_eq]
  exact ((hblank.append h).append hblank).outer_enclosed '\x7b' '\x7d' (by decide)

/-! ### Joined texts -/

section

variable {separator : String} (hseparator : Balanced separator)
include hseparator

theorem outer_joinWith_cons {first next : String} {rest : List String} (hfirst : Balanced first) :
    outer (joinWith separator (first :: next :: rest))
      = outer first ++ outer separator ++ outer (joinWith separator (next :: rest)) := by
  rw [joinWith, outer_append (hfirst.append hseparator), outer_append hfirst]

/-- An outer character of joined texts is one of a text or, if there are several, of the
separator. -/
theorem mem_outer_joinWith {c : Char} : ∀ {items : List String}, (∀ item ∈ items, Balanced item) →
    c ∈ outer (joinWith separator items) →
    (∃ item ∈ items, c ∈ outer item) ∨ (2 ≤ items.length ∧ c ∈ outer separator)
  | [], _, h => nomatch h
  | [item], _, h => .inl ⟨item, List.mem_singleton_self item, h⟩
  | first :: next :: rest, hitems, h => by
      rw [outer_joinWith_cons hseparator (hitems first List.mem_cons_self), List.mem_append,
        List.mem_append] at h
      rcases h with (hfirst | hbetween) | hrest
      · exact .inl ⟨first, List.mem_cons_self, hfirst⟩
      · exact .inr ⟨by simp, hbetween⟩
      · rcases mem_outer_joinWith (fun item hitem => hitems item (List.mem_cons_of_mem _ hitem))
          hrest with ⟨item, hitem, hc⟩ | ⟨-, hbetween⟩
        · exact .inl ⟨item, List.mem_cons_of_mem _ hitem, hc⟩
        · exact .inr ⟨by simp, hbetween⟩

/-- The outer part of each of the joined texts is there. -/
theorem infix_outer_joinWith {item : String} : ∀ {items : List String},
    (∀ item ∈ items, Balanced item) → item ∈ items →
    outer item <:+: outer (joinWith separator items)
  | [only], _, h => List.mem_singleton.mp h ▸ List.infix_refl _
  | first :: next :: rest, hitems, h => by
      rw [outer_joinWith_cons hseparator (hitems first List.mem_cons_self)]
      rcases List.mem_cons.mp h with rfl | hrest
      · exact ((List.prefix_append _ _).trans (List.prefix_append _ _)).isInfix
      · exact (infix_outer_joinWith (fun other hother => hitems other (List.mem_cons_of_mem _ hother))
          hrest).trans (List.suffix_append _ _).isInfix

/-- So is that of the separator, if there are several. -/
theorem infix_outer_separator {items : List String} (hitems : ∀ item ∈ items, Balanced item)
    (htwo : 2 ≤ items.length) : outer separator <:+: outer (joinWith separator items) := by
  match items, htwo with
  | first :: next :: rest, _ =>
      rw [outer_joinWith_cons hseparator (hitems first List.mem_cons_self)]
      exact List.infix_append _ _ _

end

end ApiRoutes.Text
