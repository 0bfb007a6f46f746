import ApiRoutes.Proofs.Text.WordChars
import ApiRoutes.Text.Quoted
import Mathlib.Data.List.Basic

/-!
# Alternatives of a type expression

The alternatives of a type expression are its parts between the bars of the outermost union. A
reader that finds them goes through the text once: it counts brackets, skips quoted literals, and
cuts at each ` | ` outside both.

A text is *closed* if a reader is where it started after it, so that what follows is read as if it
stood alone. Closed texts can be put together: one after the other (`Closed.append`), in brackets
(`Closed.enclosed`), and with bars between them, where the alternatives of the whole are those of
the parts (`alternatives_append`, `alternatives_joinDistinct`).
-/

namespace ApiRoutes.Text

/-! ## Reading -/

/-- What a reader makes of the next character: in a quoted literal it is part of the text, and after
a backslash it does not end the literal. -/
inductive ReadingMode where
  | plain
  | quoted
  | escaped
  deriving DecidableEq, Repr

/-- Where a reader of a type expression is. -/
structure Reading where
  mode : ReadingMode := .plain
  /-- How many brackets are open. -/
  depth : Nat := 0
  deriving DecidableEq, Repr

/-- An opening bracket. -/
def isOpening (c : Char) : Bool := ['(', '[', '\x7b', '<'].contains c

/-- A closing bracket. -/
def isClosing (c : Char) : Bool := [')', ']', '\x7d', '>'].contains c

/-- Reads one character. A bracket that was not opened closes nothing. -/
def Reading.next (reading : Reading) (c : Char) : Reading :=
  match reading.mode with
  | .plain =>
    if c = '"' then { reading with mode := .quoted }
    else if isOpening c then { reading with depth := reading.depth + 1 }
    else if isClosing c then { reading with depth := reading.depth - 1 }
    else reading
  | .quoted =>
    if c = '\\' then { reading with mode := .escaped }
    else if c = '"' then { reading with mode := .plain }
    else reading
  | .escaped => { reading with mode := .quoted }

/-- Reads a text. -/
def Reading.after (reading : Reading) (cs : List Char) : Reading := cs.foldl Reading.next reading

theorem Reading.after_append (reading : Reading) (xs ys : List Char) :
    reading.after (xs ++ ys) = (reading.after xs).after ys :=
  List.foldl_append

/-- Two readers in the same mode, the second of them at most `d` brackets deeper. -/
structure Reading.Within (d : Nat) (reading deeper : Reading) : Prop where
  mode_eq : deeper.mode = reading.mode
  le : reading.depth ≤ deeper.depth
  le_add : deeper.depth ≤ reading.depth + d

theorem Reading.Within.next {d : Nat} {reading deeper : Reading} (h : reading.Within d deeper)
    (c : Char) : (reading.next c).Within d (deeper.next c) := by
  obtain ⟨mode, depth⟩ := reading
  obtain ⟨mode', depth'⟩ := deeper
  obtain ⟨rfl, hle, hadd⟩ := h
  cases mode' with
  | plain =>
      simp only [Reading.next]
      split_ifs
      · exact ⟨rfl, hle, hadd⟩
      · exact ⟨rfl, by simpa using hle, by simp only at *; omega⟩
      · exact ⟨rfl, by simp only at *; omega, by simp only at *; omega⟩
      · exact ⟨rfl, hle, hadd⟩
  | quoted =>
      simp only [Reading.next]
      split_ifs <;> exact ⟨rfl, hle, hadd⟩
  | escaped => exact ⟨rfl, hle, hadd⟩

/-- A deeper reader stays at most as much deeper. -/
theorem Reading.Within.after {d : Nat} {reading deeper : Reading} (h : reading.Within d deeper)
    (cs : List Char) : (reading.after cs).Within d (deeper.after cs) := by
  induction cs generalizing reading deeper with
  | nil => exact h
  | cons c cs ih => exact ih (h.next c)

/-! ## Closed texts -/

/-- A text after which a reader is where it started, and that does not end in a bar. -/
def Closed (s : String) : Prop :=
  ({} : Reading).after s.toList = {} ∧ s.toList.getLast? ≠ some '|'

instance (s : String) : Decidable (Closed s) := inferInstanceAs (Decidable (_ ∧ _))

/-- A reader that has brackets open is not deeper after a closed text. -/
theorem Closed.after_le {s : String} (h : Closed s) (d : Nat) :
    ∃ e ≤ d, Reading.after ⟨.plain, d⟩ s.toList = ⟨.plain, e⟩ := by
  have hstart : Reading.Within d {} ⟨.plain, d⟩ :=
    ⟨rfl, Nat.zero_le d, Nat.le_of_eq (Nat.zero_add d).symm⟩
  obtain ⟨hmode, -, hadd⟩ := hstart.after s.toList
  rw [h.1] at hmode hadd
  cases hafter : Reading.after ⟨.plain, d⟩ s.toList with
  | mk mode e =>
      rw [hafter] at hmode hadd
      obtain rfl : mode = .plain := hmode
      exact ⟨e, Nat.zero_add d ▸ hadd, rfl⟩

theorem Closed.append {s t : String} (hs : Closed s) (ht : Closed t) : Closed (s ++ t) := by
  refine ⟨?_, ?_⟩
  · rw [String.toList_append, Reading.after_append, hs.1, ht.1]
  · rw [String.toList_append, List.getLast?_append]
    cases hlast : t.toList.getLast? with
    | none => exact hs.2
    | some c =>
        rw [Option.some_or, ← hlast]
        exact ht.2

theorem Reading.next_opening {c : Char} (h : isOpening c = true) (d : Nat) :
    Reading.next ⟨.plain, d⟩ c = ⟨.plain, d + 1⟩ := by
  have hquote : c ≠ '"' := by rintro rfl; exact absurd h (by decide)
  simp [Reading.next, hquote, h]

theorem Reading.next_closing {c : Char} (h : isClosing c = true) (d : Nat) :
    Reading.next ⟨.plain, d⟩ c = ⟨.plain, d - 1⟩ := by
  have hquote : c ≠ '"' := by rintro rfl; exact absurd h (by decide)
  have hopening : isOpening c = false := by
    by_contra hopening
    simp only [isOpening, List.contains_iff_mem, List.mem_cons, List.not_mem_nil, or_false,
      Bool.not_eq_false] at hopening
    rcases hopening with rfl | rfl | rfl | rfl <;> exact absurd h (by decide)
  simp [Reading.next, hquote, hopening, h]

theorem Closed.enclosed {s : String} {opening closing : Char} (hopening : isOpening opening = true)
    (hclosing : isClosing closing = true) (h : Closed s) :
    Closed (String.singleton opening ++ s ++ String.singleton closing) := by
  obtain ⟨e, hle, he⟩ := h.after_le 1
  have hchars : (String.singleton opening ++ s ++ String.singleton closing).toList
      = opening :: (s.toList ++ [closing]) := by simp
  refine ⟨?_, ?_⟩
  · rw [hchars]
    show Reading.after (Reading.next ⟨.plain, 0⟩ opening) (s.toList ++ [closing]) = {}
    rw [Reading.next_opening hopening, Reading.after_append, he]
    show Reading.next ⟨.plain, e⟩ closing = {}
    rw [Reading.next_closing hclosing, Nat.sub_eq_zero_of_le hle]
  · rw [hchars, ← List.cons_append, List.getLast?_concat]
    intro hbar
    obtain rfl := Option.some.inj hbar
    exact absurd hclosing (by decide)

/-! ### Characters without a meaning of their own -/

/-- A character that is neither bracket, quote nor bar. -/
def isPlainChar (c : Char) : Bool := !(isOpening c || isClosing c || c = '"' || c = '|')

theorem Reading.next_of_isPlainChar {c : Char} (h : isPlainChar c = true) (d : Nat) :
    Reading.next ⟨.plain, d⟩ c = ⟨.plain, d⟩ := by
  simp only [isPlainChar, Bool.not_eq_true', Bool.or_eq_false_iff, decide_eq_false_iff_not] at h
  simp [Reading.next, h]

theorem Reading.after_of_isPlainChar {cs : List Char} (h : ∀ c ∈ cs, isPlainChar c = true)
    (d : Nat) : Reading.after ⟨.plain, d⟩ cs = ⟨.plain, d⟩ := by
  induction cs with
  | nil => rfl
  | cons c cs ih =>
      obtain ⟨hc, hcs⟩ := List.forall_mem_cons.mp h
      show Reading.after (Reading.next ⟨.plain, d⟩ c) cs = ⟨.plain, d⟩
      rw [Reading.next_of_isPlainChar hc, ih hcs]

theorem closed_of_isPlainChar {s : String} (h : ∀ c ∈ s.toList, isPlainChar c = true) :
    Closed s := by
  refine ⟨Reading.after_of_isPlainChar h 0, fun hlast => ?_⟩
  exact absurd (h _ (List.mem_of_getLast? hlast)) (by decide)

theorem Reading.after_escapeQuoted (d : Nat) (cs : List Char) :
    Reading.after ⟨.quoted, d⟩ (escapeQuoted cs) = ⟨.quoted, d⟩ := by
  induction cs with
  | nil => rfl
  | cons c cs ih =>
      unfold escapeQuoted
      split
      · -- the character stands after a backslash
        exact ih
      · rename_i hplain
        obtain ⟨hback, hquote⟩ : c ≠ '\\' ∧ c ≠ '"' := by simpa using hplain
        have hnext : Reading.next ⟨.quoted, d⟩ c = ⟨.quoted, d⟩ := by
          simp [Reading.next, hback, hquote]
        show Reading.after (Reading.next ⟨.quoted, d⟩ c) (escapeQuoted cs) = _
        rw [hnext, ih]

/-- A quoted literal is closed, whatever it quotes. -/
theorem closed_quoted (s : String) : Closed (quoted s) := by
  have hchars : (quoted s).toList = '"' :: (escapeQuoted s.toList ++ ['"']) := by
    simp [quoted, escape]
  refine ⟨?_, ?_⟩
  · rw [hchars]
    show Reading.after ⟨.quoted, 0⟩ (escapeQuoted s.toList ++ ['"']) = {}
    rw [Reading.after_append, Reading.after_escapeQuoted]
    rfl
  · rw [hchars, ← List.cons_append, List.getLast?_concat]
    decide

/-! ## Alternatives -/

/-- The bar between two alternatives. -/
def bar : String := " | "

/-- Cuts a text at the bars outside brackets and quotes. `piece` is what is already read of the
current alternative. -/
def piecesFrom (reading : Reading) (piece : List Char) : List Char → List (List Char)
  | [] => [piece]
  | ' ' :: '|' :: ' ' :: rest =>
    if reading = {} then piece :: piecesFrom {} [] rest
    else piecesFrom (reading.next ' ') (piece ++ [' ']) ('|' :: ' ' :: rest)
  | c :: cs => piecesFrom (reading.next c) (piece ++ [c]) cs

/-- The alternatives of a type expression. -/
def alternatives (type : String) : List String :=
  (piecesFrom {} [] type.toList).map String.ofList

theorem piecesFrom_bar (piece rest : List Char) :
    piecesFrom {} piece (bar.toList ++ rest) = piece :: piecesFrom {} [] rest :=
  if_pos rfl

theorem piecesFrom_cons {reading : Reading} {piece : List Char} {c : Char} {cs : List Char}
    (h : reading = {} → ¬ bar.toList <+: c :: cs) :
    piecesFrom reading piece (c :: cs) = piecesFrom (reading.next c) (piece ++ [c]) cs := by
  rw [piecesFrom.eq_def]
  split
  · contradiction
  · rename_i rest heq
    obtain ⟨rfl, rfl⟩ := List.cons.inj heq
    split
    · rename_i hstart
      exact absurd ⟨rest, rfl⟩ (h hstart)
    · rfl
  · rename_i heq
    obtain ⟨rfl, rfl⟩ := List.cons.inj heq
    rfl

/-- A bar that begins in a text that does not end in `|` does not reach beyond it. -/
theorem bar_prefix_of_append {c : Char} {cs rest : List Char}
    (hlast : (c :: cs).getLast? ≠ some '|')
    (h : bar.toList <+: c :: (cs ++ (bar.toList ++ rest))) : bar.toList <+: c :: cs := by
  obtain ⟨tail, htail⟩ := h
  obtain ⟨rfl, hsecond⟩ := List.cons.inj htail
  cases cs with
  | nil => exact absurd (List.cons.inj hsecond).1 (by decide)
  | cons d ds =>
      obtain ⟨rfl, hthird⟩ := List.cons.inj hsecond
      cases ds with
      | nil => exact absurd rfl hlast
      | cons e es =>
          obtain ⟨rfl, -⟩ := List.cons.inj hthird
          exact ⟨es, rfl⟩

theorem getLast?_ne_of_cons {c : Char} {cs : List Char} (h : (c :: cs).getLast? ≠ some '|') :
    cs.getLast? ≠ some '|' := by
  cases cs with
  | nil => simp
  | cons d ds => rwa [List.getLast?_cons_cons] at h

/-- A bar after a closed text is where the text is cut. -/
theorem piecesFrom_append (rest cs : List Char) (reading : Reading) (piece : List Char)
    (hread : reading.after cs = {}) (hlast : cs.getLast? ≠ some '|') :
    piecesFrom reading piece (cs ++ (bar.toList ++ rest))
      = piecesFrom reading piece cs ++ piecesFrom {} [] rest := by
  fun_induction piecesFrom reading piece cs with
  | case1 reading piece =>
      obtain rfl : reading = {} := hread
      rw [List.nil_append, piecesFrom_bar, List.singleton_append]
  | case2 piece later ih =>
      -- a bar of the text itself
      have hcut := piecesFrom_bar piece (later ++ (bar.toList ++ rest))
      have hend := getLast?_ne_of_cons (getLast?_ne_of_cons (getLast?_ne_of_cons hlast))
      have hlater := ih hread hend
      rw [hlater] at hcut
      exact hcut
  | case3 reading piece later hinner ih =>
      rw [List.cons_append, piecesFrom_cons fun hstart => absurd hstart hinner]
      exact ih hread (getLast?_ne_of_cons hlast)
  | case4 reading piece c cs hplain ih =>
      have hhere : ¬ bar.toList <+: c :: cs := by
        rintro ⟨later, hlater⟩
        obtain ⟨rfl, hcs⟩ := List.cons.inj hlater
        exact hplain later rfl hcs.symm
      rw [List.cons_append,
        piecesFrom_cons fun _ hbar => hhere (bar_prefix_of_append hlast hbar)]
      exact ih hread (getLast?_ne_of_cons hlast)

/-- The alternatives of a union are those of its parts. -/
theorem alternatives_append {s t : String} (h : Closed s) :
    alternatives (s ++ bar ++ t) = alternatives s ++ alternatives t := by
  unfold alternatives
  rw [String.toList_append, String.toList_append, List.append_assoc,
    piecesFrom_append _ _ _ _ h.1 h.2, List.map_append]

theorem alternatives_joinWith : ∀ {items : List String}, items ≠ [] →
    (∀ item ∈ items, Closed item) → alternatives (joinWith bar items) = items.flatMap alternatives
  | [], h, _ => absurd rfl h
  | [item], _, _ => (List.flatMap_singleton alternatives item).symm
  | item :: next :: items, _, h => by
      have ih := alternatives_joinWith (List.cons_ne_nil next items)
        fun other hother => h other (List.mem_cons_of_mem _ hother)
      rw [joinWith, alternatives_append (h item List.mem_cons_self), ih]
      rfl

/-- The alternatives of joined texts are those of the texts, each text counted once. -/
theorem alternatives_joinDistinct {items : List String} (hne : items ≠ [])
    (h : ∀ item ∈ items, Closed item) :
    alternatives (joinDistinct bar items) = (distinct items).flatMap alternatives := by
  have hdistinct : distinct items ≠ [] := by
    obtain ⟨item, hitem⟩ := List.exists_mem_of_ne_nil items hne
    exact List.ne_nil_of_mem (mem_distinct.mpr hitem)
  exact alternatives_joinWith hdistinct fun item hitem => h item (mem_distinct.mp hitem)

/-- Leaving out repeats loses no alternative. -/
theorem mem_alternatives_joinDistinct {x : String} {items : List String} (hne : items ≠ [])
    (h : ∀ item ∈ items, Closed item) :
    x ∈ alternatives (joinDistinct bar items) ↔ ∃ item ∈ items, x ∈ alternatives item := by
  rw [alternatives_joinDistinct hne h]
  simp only [List.mem_flatMap, mem_distinct]

/-- Joined texts list no alternative twice if none of them does and no two different ones share
one. -/
theorem nodup_alternatives_joinDistinct {items : List String} (hne : items ≠ [])
    (h : ∀ item ∈ items, Closed item) :
    (alternatives (joinDistinct bar items)).Nodup ↔
      (∀ item ∈ items, (alternatives item).Nodup)
        ∧ ∀ item ∈ items, ∀ other ∈ items, item ≠ other →
          List.Disjoint (alternatives item) (alternatives other) := by
  rw [alternatives_joinDistinct hne h, List.nodup_flatMap]
  refine and_congr (by simp only [mem_distinct]) ⟨fun hpairs item hitem other hother hdiffer => ?_,
    fun hpairs => (nodup_distinct items).pairwise_of_forall_ne fun item hitem other hother =>
      hpairs item (mem_distinct.mp hitem) other (mem_distinct.mp hother)⟩
  have : Std.Symm (Function.onFun List.Disjoint alternatives) := ⟨fun _ _ h => h.symm⟩
  exact hpairs.forall (mem_distinct.mpr hitem) (mem_distinct.mpr hother) hdiffer

end ApiRoutes.Text
