import ApiRoutes.Path.Template
import ApiRoutes.Proofs.Text.WordChars

/-!
# Cutting a path

A cut goes through a text once. A match at a position is found as a whole and the cut goes on behind
it (`cutAt_of_found`); every other character is kept by itself (`cutAt_of_none`). So each literal
piece is a character of the text, and each piece that is found was a match somewhere.

A token is a name between delimiters (`IsToken`). The name has no delimiters of its own, and neither
has the name in camel casing that the placeholder is written with.
-/

namespace ApiRoutes

theorem isWordChar_camelName (name : String) :
    ∀ c ∈ (camelName name).toList, Text.isWordChar c = true :=
  Text.isWordChar_lowerCamelCase (identifierWords name)

namespace PathTemplate

/-! ## Cuts -/

section

variable {find? : List Char → Option (List Char × List Char)} {cs written inner rest : List Char}
  {c : Char}

theorem cutAt_append (find? : List Char → Option (List Char × List Char))
    (written rest : List Char) :
    cutAt find? written.length (written ++ rest) = cutAt find? 0 rest := by
  induction written with
  | nil => rfl
  | cons c cs ih => exact ih

theorem cutAt_of_found (h : find? (written ++ rest) = some (written, inner)) (hne : written ≠ []) :
    cutAt find? 0 (written ++ rest) = .found written inner :: cutAt find? 0 rest := by
  cases written with
  | nil => exact absurd rfl hne
  | cons c cs =>
      rw [List.cons_append] at h ⊢
      rw [cutAt, h]
      exact congrArg (List.cons _) (cutAt_append find? cs rest)

theorem cutAt_of_none (h : find? (c :: cs) = none) :
    cutAt find? 0 (c :: cs) = .literal c :: cutAt find? 0 cs := by
  rw [cutAt, h]

/-- Literal pieces are characters of the text. -/
theorem mem_of_literal_mem_cutAt : ∀ {skip : Nat} {cs : List Char},
    .literal c ∈ cutAt find? skip cs → c ∈ cs
  | _, [], h => nomatch h
  | skip + 1, _ :: cs, h =>
      have h : .literal c ∈ cutAt find? skip cs := h
      List.mem_cons_of_mem _ (mem_of_literal_mem_cutAt h)
  | 0, d :: cs, h => by
      rw [cutAt] at h
      split at h
      · rcases List.mem_cons.mp h with hfound | hrest
        · cases hfound
        · exact List.mem_cons_of_mem _ (mem_of_literal_mem_cutAt hrest)
      · rcases List.mem_cons.mp h with hfirst | hrest
        · cases hfirst
          exact List.mem_cons_self
        · exact List.mem_cons_of_mem _ (mem_of_literal_mem_cutAt hrest)

/-- What is found was a match. -/
theorem exists_of_found_mem_cutAt : ∀ {skip : Nat} {cs : List Char},
    .found written inner ∈ cutAt find? skip cs → ∃ text, find? text = some (written, inner)
  | _, [], h => nomatch h
  | skip + 1, _ :: cs, h =>
      have h : .found written inner ∈ cutAt find? skip cs := h
      exists_of_found_mem_cutAt h
  | 0, d :: cs, h => by
      rw [cutAt] at h
      split at h
      · rename_i hmatch
        rcases List.mem_cons.mp h with hfound | hrest
        · cases hfound
          exact ⟨_, hmatch⟩
        · exact exists_of_found_mem_cutAt hrest
      · rcases List.mem_cons.mp h with hfirst | hrest
        · cases hfirst
        · exact exists_of_found_mem_cutAt hrest

end

/-! ## Tokens -/

/-- The ways to write a name as a token. -/
inductive IsToken (name : List Char) : List Char → Prop
  | braces : IsToken name ('\x7b' :: name ++ ['\x7d'])
  | colon : IsToken name (':' :: name)
  | colons : IsToken name (':' :: name ++ [':'])

theorem isNameRest_of_isNameStart {c : Char} (h : isNameStart c = true) : isNameRest c = true := by
  unfold isNameStart at h
  unfold isNameRest Char.isAlphanum
  grind

theorem isNameRest_of_name? {cs name rest : List Char} (h : name? cs = some (name, rest)) :
    ∀ c ∈ name, isNameRest c = true := by
  cases cs with
  | nil => simp [name?] at h
  | cons first cs =>
      rw [name?] at h
      split at h
      · rename_i hstart
        obtain ⟨rfl, -⟩ := Prod.mk.inj (Option.some.inj h)
        refine List.forall_mem_cons.mpr ⟨isNameRest_of_isNameStart hstart, fun c hc => ?_⟩
        exact List.mem_takeWhile_imp hc
      · simp at h

/-- A token is a name between delimiters. -/
theorem isToken_of_token? {cs written name : List Char} (h : token? cs = some (written, name)) :
    IsToken name written ∧ ∀ c ∈ name, isNameRest c = true := by
  unfold token? at h
  split at h
  · split at h
    · rename_i hname
      cases h
      exact ⟨.braces, isNameRest_of_name? hname⟩
    · cases h
  · split at h
    · rename_i hname
      cases h
      exact ⟨.colons, isNameRest_of_name? hname⟩
    · rename_i hname
      cases h
      exact ⟨.colon, isNameRest_of_name? hname⟩
    · cases h
  · cases h

theorem isToken_of_mem_tokenPieces {path : String} {written name : List Char}
    (h : .found written name ∈ tokenPieces path) :
    IsToken name written ∧ ∀ c ∈ name, isNameRest c = true := by
  obtain ⟨text, htext⟩ := exists_of_found_mem_cutAt h
  exact isToken_of_token? htext

end PathTemplate

end ApiRoutes
