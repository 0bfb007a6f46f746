import ApiRoutes.Proofs.Text.Brackets

/-!
# Bars that stand apart

The bars of a union stand between its variants, so that no two of them are next to each other and
none is at an end, whatever is outside of brackets in the variants. Like being balanced, this is kept
by rendering (`keptByRendering_spaced`).

In such a text an ending ` | null` is an alternative of its own (`Spaced.mem_alternatives_null`): no
bar before it reaches into it. Without bars outside there is one alternative only
(`alternatives_eq_singleton`).
-/

namespace ApiRoutes.Text

/-- The outer bars are neither at an end nor next to each other. -/
structure SpacedOuter (cs : List Char) : Prop where
  head : cs.head? ≠ some '|'
  last : cs.getLast? ≠ some '|'
  apart : ¬ ['|', ' ', '|'] <:+: cs

/-- A balanced text whose outer bars stand apart. -/
structure Spaced (s : String) : Prop where
  balanced : Balanced s
  outer : SpacedOuter (outer s)

theorem spacedOuter_of_not_mem {cs : List Char} (h : '|' ∉ cs) : SpacedOuter cs where
  head := fun hhead => h (List.mem_of_head? hhead)
  last := fun hlast => h (List.mem_of_getLast? hlast)
  apart := fun hwithin => h (hwithin.mem (by simp))

theorem SpacedOuter.append {xs ys : List Char} (hxs : SpacedOuter xs) (hys : SpacedOuter ys) :
    SpacedOuter (xs ++ ys) where
  head := by
    cases xs with
    | nil => exact hys.head
    | cons x xs => exact hxs.head
  last := by
    rw [List.getLast?_append]
    cases hlast : ys.getLast? with
    | none => exact hxs.last
    | some c => rw [Option.some_or, ← hlast]; exact hys.last
  apart := by
    intro hwithin
    rcases List.infix_append_iff.mp hwithin with hin | hin | ⟨start, rest, hsplit, hstart, hrest⟩
    · exact hxs.apart hin
    · exact hys.apart hin
    · -- the pattern would begin with the last bar of the first part or end with the first bar of
      -- the second one
      rcases start with _ | ⟨_, _ | ⟨_, _ | ⟨_, tail⟩⟩⟩ <;>
        simp only [List.nil_append, List.cons_append, List.cons.injEq] at hsplit
      · exact hys.apart (hsplit ▸ hrest.isInfix)
      · obtain ⟨rfl, -⟩ := hsplit
        obtain ⟨before, rfl⟩ := hstart
        exact hxs.last List.getLast?_concat
      · obtain ⟨-, -, rfl⟩ := hsplit
        obtain ⟨after, rfl⟩ := hrest
        exact hys.head rfl
      · obtain ⟨rfl, rfl, rfl, htail⟩ := hsplit
        obtain ⟨rfl, -⟩ := List.append_eq_nil_iff.mp htail.symm
        exact hxs.apart hstart.isInfix

theorem Balanced.spaced_of_not_mem {s : String} (h : Balanced s) (hplain : '|' ∉ Text.outer s) :
    Spaced s :=
  ⟨h, spacedOuter_of_not_mem hplain⟩

/-- Rendering keeps bars apart. -/
theorem keptByRendering_spaced : KeptByRendering Spaced where
  plain := fun h => (balanced_of_isPlainChar h).spaced_of_not_mem fun hmem =>
    absurd (List.all_eq_true.mp h _ (Reading.mem_of_mem_outer hmem)) (by decide)
  bar := ⟨keptByRendering_balanced.bar, by decide, by decide, by decide⟩
  quoted := fun s => (balanced_quoted s).spaced_of_not_mem (by rw [outer_quoted]; decide)
  append := fun hs ht => ⟨hs.balanced.append ht.balanced,
    by rw [outer_append hs.balanced]; exact hs.outer.append ht.outer⟩
  enclosed := fun hopening hclosing h =>
    (h.balanced.enclosed hopening hclosing).spaced_of_not_mem (by
      rw [h.balanced.outer_enclosed _ _ hopening]
      intro hmem
      rw [List.mem_singleton] at hmem
      exact absurd hopening (hmem ▸ by decide))

/-! ## The last alternative -/

/-- A reader that is outside after characters that close nothing was outside before them. -/
theorem Reading.eq_start_of_after {cs : List Char}
    (h : ∀ c ∈ cs, isClosing c = false ∧ c ≠ '"') {reading : Reading}
    (hafter : reading.after cs = {}) : reading = {} := by
  induction cs generalizing reading with
  | nil => exact hafter
  | cons c cs ih =>
      obtain ⟨⟨hclosing, hquote⟩, hcs⟩ := List.forall_mem_cons.mp h
      have hnext : reading.next c = {} := ih hcs hafter
      obtain ⟨mode, depth⟩ := reading
      cases mode with
      | plain =>
          simp only [Reading.next, hquote, hclosing, if_false, Bool.false_eq_true] at hnext
          by_cases hopening : isOpening c = true
          · rw [if_pos hopening] at hnext
            cases hnext
          · rwa [if_neg hopening] at hnext
      | quoted =>
          simp only [Reading.next, hquote] at hnext
          split at hnext <;> cases hnext
      | escaped => cases hnext

/-- Where the end of a balanced text closes nothing, the reader is outside before it. -/
theorem Balanced.outer_split {s : String} (h : Balanced s) {xs ys : List Char}
    (hs : s.toList = xs ++ ys) (hys : ∀ c ∈ ys, isClosing c = false ∧ c ≠ '"') :
    ({} : Reading).after xs = {}
      ∧ outer s = ({} : Reading).outer xs ++ ({} : Reading).outer ys := by
  have hreturns := h.returns 0
  rw [hs, Reading.after_append] at hreturns
  have hafter : ({} : Reading).after xs = {} := Reading.eq_start_of_after hys hreturns
  rw [outer, hs, Reading.outer_append, hafter]
  exact ⟨rfl, rfl⟩

theorem Spaced.closed {s : String} (h : Spaced s) : Closed s := by
  refine ⟨h.balanced.returns 0, fun hlast => ?_⟩
  obtain ⟨start, hs⟩ := List.getLast?_eq_some_iff.mp hlast
  obtain ⟨-, houter⟩ := h.balanced.outer_split hs (by simp [isClosing])
  exact h.outer.last (houter ▸ List.getLast?_concat)

/-- A text that ends with ` | null` has the alternative `null`. -/
theorem Spaced.mem_alternatives_null {s : String} (h : Spaced s) {start : List Char}
    (hs : s.toList = start ++ " | null".toList) : "null" ∈ alternatives s := by
  obtain ⟨hafter, -⟩ := h.balanced.outer_split hs (by simp [isClosing])
  have hlast : start.getLast? ≠ some '|' := by
    intro hlast
    obtain ⟨before, rfl⟩ := List.getLast?_eq_some_iff.mp hlast
    rw [List.append_assoc] at hs
    obtain ⟨-, houter⟩ := h.balanced.outer_split hs (by simp [isClosing])
    refine h.outer.apart (houter ▸ ?_)
    exact ⟨({} : Reading).outer before, " null".toList, by rw [List.append_assoc]; rfl⟩
  have hcut := piecesFrom_append "null".toList start {} [] hafter hlast
  have hpieces : piecesFrom {} [] s.toList
      = piecesFrom {} [] start ++ piecesFrom {} [] "null".toList := hs ▸ hcut
  rw [alternatives, hpieces, List.map_append]
  exact List.mem_append_right _ (by decide)

/-! ## A single alternative -/

theorem piecesFrom_of_not_mem {reading : Reading} {piece cs : List Char}
    (h : '|' ∉ reading.outer cs) : piecesFrom reading piece cs = [piece ++ cs] := by
  fun_induction piecesFrom reading piece cs with
  | case1 reading piece => rw [List.append_nil]
  | case2 piece later ih => exact absurd (List.mem_cons_of_mem _ List.mem_cons_self) h
  | case3 reading piece later hinner ih =>
      rw [Reading.outer_cons_of_ne hinner] at h
      rw [ih h, List.append_assoc, List.singleton_append]
  | case4 reading piece c cs hplain ih =>
      have hcs : '|' ∉ (reading.next c).outer cs := fun hmem => h (by
        unfold Reading.outer
        split
        · exact List.mem_cons_of_mem _ hmem
        · exact hmem)
      rw [ih hcs, List.append_assoc, List.singleton_append]

/-- A text without bars outside is one alternative. -/
theorem alternatives_eq_singleton {s : String} (h : '|' ∉ outer s) : alternatives s = [s] := by
  rw [alternatives, piecesFrom_of_not_mem h, List.nil_append, List.map_singleton,
    String.ofList_toList]

end ApiRoutes.Text
