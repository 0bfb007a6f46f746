import ApiRoutes.Proofs.Path.Pieces

/-!
# The places of path parameters

The route of a path is made in two passes. The first writes a placeholder for every token, the second
takes the query expansions out of the text that the first one leaves. No expansion begins in a
placeholder, because names in camel casing are words. But the brace a placeholder ends with does close
an expansion that begins before it, and such a placeholder goes away with the expansion.

So the second pass works on whole pieces. `Outside` relates the pieces of a path to those that remain,
and the route is made of exactly these (`Outside.withoutExpansions`). Two results follow:

- a path parameter loses its place exactly when an expansion ends in a token (`holdsToken`);
- otherwise the placeholders stand in the route in the order of the parameters, with texts between
  them (`HasPlaces`).
-/

namespace ApiRoutes.PathTemplate

/-! ## Expansions among pieces -/

/-- Whether the text of a piece ends an expansion. -/
def Piece.closes : Piece → Bool
  | .literal c => c = '\x7d'
  | .found _ _ => true

def Piece.isFound : Piece → Bool
  | .literal _ => false
  | .found _ _ => true

@[simp] theorem Piece.isFound_literal (c : Char) : (Piece.literal c).isFound = false := rfl

@[simp] theorem Piece.isFound_found (written inner : List Char) :
    (Piece.found written inner).isFound = true := rfl

/-- The piece that ends the expansion at the start of a piece list. -/
def expansionEnd? : List Piece → Option Piece
  | .literal '\x7b' :: .literal '?' :: rest => rest.find? Piece.closes
  | _ => none

/-- Whether some query expansion takes in a token. -/
def holdsToken (pieces : List Piece) : Bool :=
  pieces.tails.any fun tail => (expansionEnd? tail).any Piece.isFound

/-- The pieces outside all query expansions. -/
inductive Outside : List Piece → List Piece → Prop
  | nil : Outside [] []
  | expansion {middle rest kept : List Piece} {closer : Piece}
      (hmiddle : ∀ piece ∈ middle, piece.closes = false) (hcloser : closer.closes = true)
      (hrest : Outside rest kept) :
      Outside (.literal '\x7b' :: .literal '?' :: (middle ++ closer :: rest)) kept
  | keep {piece : Piece} {pieces kept : List Piece} (hnone : expansionEnd? (piece :: pieces) = none)
      (hrest : Outside pieces kept) :
      Outside (piece :: pieces) (piece :: kept)

theorem exists_of_expansionEnd? {pieces : List Piece} {closer : Piece}
    (h : expansionEnd? pieces = some closer) :
    ∃ middle rest, pieces = .literal '\x7b' :: .literal '?' :: (middle ++ closer :: rest) ∧
      (∀ piece ∈ middle, piece.closes = false) ∧ closer.closes = true := by
  unfold expansionEnd? at h
  split at h
  · obtain ⟨hcloser, middle, rest, rfl, hmiddle⟩ := List.find?_eq_some_iff_append.mp h
    exact ⟨middle, rest, rfl, fun piece hmem => by simpa using hmiddle piece hmem, hcloser⟩
  · cases h

theorem exists_outside : ∀ pieces : List Piece, ∃ kept, Outside pieces kept
  | [] => ⟨[], .nil⟩
  | piece :: pieces => by
      cases h : expansionEnd? (piece :: pieces) with
      | none =>
          obtain ⟨kept, hkept⟩ := exists_outside pieces
          exact ⟨piece :: kept, .keep h hkept⟩
      | some closer =>
          obtain ⟨middle, rest, heq, hmiddle, hcloser⟩ := exists_of_expansionEnd? h
          have hshorter : rest.length ≤ pieces.length := by
            have hlength := congrArg List.length heq
            simp only [List.length_cons, List.length_append] at hlength
            omega
          obtain ⟨kept, hkept⟩ := exists_outside rest
          exact ⟨kept, heq ▸ .expansion hmiddle hcloser hkept⟩
termination_by pieces => pieces.length

/-! ## Taking expansions out of a text -/

theorem withoutExpansions_of_none {c : Char} {cs : List Char} (h : expansion? (c :: cs) = none) :
    withoutExpansions (c :: cs) = c :: withoutExpansions cs := by
  unfold withoutExpansions
  rw [cutAt_of_none h]
  rfl

theorem expansion?_of_ne {c : Char} (h : c ≠ '\x7b') (cs : List Char) :
    expansion? (c :: cs) = none := by
  unfold expansion?
  split
  · rename_i heq
    exact absurd (List.cons.inj heq).1 h
  · rfl

theorem withoutExpansions_append {text : List Char} (h : '\x7b' ∉ text) (rest : List Char) :
    withoutExpansions (text ++ rest) = text ++ withoutExpansions rest := by
  induction text with
  | nil => rfl
  | cons c text ih =>
      obtain ⟨hc, htext⟩ := not_or.mp (mt List.mem_cons.mpr h)
      rw [List.cons_append, withoutExpansions_of_none (expansion?_of_ne (Ne.symm hc) _), ih htext,
        List.cons_append]

/-- An expansion begins with a brace and a question mark. -/
theorem expansion?_of_head_ne {cs : List Char} (h : cs.head? ≠ some '?') :
    expansion? ('\x7b' :: cs) = none := by
  unfold expansion?
  split
  · rename_i heq
    cases heq
    exact absurd rfl h
  · rfl

theorem expansion?_of_not_closed {cs : List Char} (h : '\x7d' ∉ cs) :
    expansion? ('\x7b' :: '?' :: cs) = none := by
  have hdrop : cs.dropWhile (· ≠ '\x7d') = [] :=
    List.dropWhile_eq_nil_iff.mpr fun c hc => decide_eq_true fun heq => h (heq ▸ hc)
  simp only [expansion?, hdrop]

theorem expansion?_of_closed {list : List Char} (h : '\x7d' ∉ list) (rest : List Char) :
    expansion? ('\x7b' :: '?' :: (list ++ '\x7d' :: rest)) =
      some ('\x7b' :: '?' :: list ++ ['\x7d'], list) := by
  have hall : ∀ c ∈ list, decide (c ≠ '\x7d') = true := fun c hc =>
    decide_eq_true fun heq => h (heq ▸ hc)
  have hdrop : (list ++ '\x7d' :: rest).dropWhile (· ≠ '\x7d') = '\x7d' :: rest := by
    rw [List.dropWhile_append_of_pos hall]
    rfl
  have htake : (list ++ '\x7d' :: rest).takeWhile (· ≠ '\x7d') = list := by
    rw [List.takeWhile_append_of_pos hall]
    exact List.append_nil list
  simp only [expansion?, hdrop, htake]

theorem withoutExpansions_of_closed {list : List Char} (h : '\x7d' ∉ list) (rest : List Char) :
    withoutExpansions ('\x7b' :: '?' :: (list ++ '\x7d' :: rest)) = withoutExpansions rest := by
  have hsplit : '\x7b' :: '?' :: (list ++ '\x7d' :: rest) =
      ('\x7b' :: '?' :: list ++ ['\x7d']) ++ rest := by simp
  have hfound := expansion?_of_closed h rest
  unfold withoutExpansions
  rw [hsplit] at hfound ⊢
  rw [cutAt_of_found hfound (List.cons_ne_nil _ _)]
  rfl

/-! ## Pieces as text -/

@[simp] theorem placeholder_literal (c : Char) : placeholder (.literal c) = [c] := rfl

theorem not_mem_camelName {c : Char} (h : Text.isWordChar c = false) (name : String) :
    c ∉ (camelName name).toList := fun hmem => by
  rw [isWordChar_camelName name c hmem] at h
  cases h

theorem not_mem_text_of_not_closes {pieces : List Piece}
    (h : ∀ piece ∈ pieces, piece.closes = false) : '\x7d' ∉ pieces.flatMap placeholder := by
  intro hmem
  obtain ⟨piece, hpiece, hchar⟩ := List.mem_flatMap.mp hmem
  have hcloses := h piece hpiece
  cases piece with
  | literal c =>
      obtain rfl := List.mem_singleton.mp hchar
      exact absurd hcloses (by decide)
  | found written name => cases hcloses

/-- The brace that ends an expansion is the last character of its piece. -/
theorem exists_text_of_closes {piece : Piece} (h : piece.closes = true) :
    ∃ before, placeholder piece = before ++ ['\x7d'] ∧ '\x7d' ∉ before := by
  cases piece with
  | literal c =>
      obtain rfl := of_decide_eq_true h
      exact ⟨[], rfl, List.not_mem_nil⟩
  | found written name =>
      refine ⟨'$' :: '\x7b' :: (camelName (String.ofList name)).toList, rfl, ?_⟩
      simp only [List.mem_cons, not_or]
      exact ⟨by decide, by decide, not_mem_camelName (by decide) _⟩

/-- No expansion begins in a placeholder. -/
theorem withoutExpansions_placeholder (written name rest : List Char) :
    withoutExpansions (placeholder (.found written name) ++ rest) =
      placeholder (.found written name) ++ withoutExpansions rest := by
  let word := (camelName (String.ofList name)).toList
  have hword {c : Char} (h : Text.isWordChar c = false) : c ∉ word := not_mem_camelName h _
  have hclosed : '\x7b' ∉ word ++ ['\x7d'] := by
    rw [List.mem_append, not_or]
    exact ⟨hword (by decide), by decide⟩
  have hhead : (word ++ ['\x7d'] ++ rest).head? ≠ some '?' := by
    cases hw : word with
    | nil => simp
    | cons c cs =>
        intro heq
        have hc : c = '?' := Option.some.inj heq
        exact hword (c := '?') (by decide) (by rw [hw, hc]; exact List.mem_cons_self)
  have htext : placeholder (.found written name) ++ rest =
      '$' :: '\x7b' :: (word ++ ['\x7d'] ++ rest) := by
    simp [placeholder, word]
  rw [htext, withoutExpansions_of_none (expansion?_of_ne (by decide) _),
    withoutExpansions_of_none (expansion?_of_head_ne hhead), withoutExpansions_append hclosed]
  simp [placeholder, word]

/-- No expansion begins at a character that begins none among the pieces. -/
theorem expansion?_literal {c : Char} {pieces : List Piece}
    (h : expansionEnd? (.literal c :: pieces) = none) :
    expansion? (c :: pieces.flatMap placeholder) = none := by
  by_cases hc : c = '\x7b'
  · subst hc
    cases pieces with
    | nil => rfl
    | cons piece rest =>
        cases piece with
        | found written name => exact expansion?_of_head_ne (by simp [placeholder])
        | literal d =>
            by_cases hd : d = '?'
            · subst hd
              refine expansion?_of_not_closed (not_mem_text_of_not_closes fun piece hmem => ?_)
              simpa using List.find?_eq_none.mp h piece hmem
            · exact expansion?_of_head_ne (by simpa [placeholder] using hd)
  · exact expansion?_of_ne hc _

/-- The second pass keeps the text of the pieces outside all expansions. -/
theorem Outside.withoutExpansions {pieces kept : List Piece} (h : Outside pieces kept) :
    withoutExpansions (pieces.flatMap placeholder) = kept.flatMap placeholder := by
  induction h with
  | nil => rfl
  | @expansion middle rest kept closer hmiddle hcloser _ ih =>
      obtain ⟨before, htext, hbefore⟩ := exists_text_of_closes hcloser
      have hlist : '\x7d' ∉ middle.flatMap placeholder ++ before := by
        rw [List.mem_append, not_or]
        exact ⟨not_mem_text_of_not_closes hmiddle, hbefore⟩
      have hsplit : (Piece.literal '\x7b' :: .literal '?' :: (middle ++ closer :: rest)).flatMap
          placeholder = '\x7b' :: '?' :: (middle.flatMap placeholder ++ before ++
            '\x7d' :: rest.flatMap placeholder) := by
        simp [htext]
      rw [hsplit, withoutExpansions_of_closed hlist, ih]
  | @keep piece pieces kept hnone _ ih =>
      rw [List.flatMap_cons, List.flatMap_cons, ← ih]
      cases piece with
      | literal c => exact withoutExpansions_of_none (expansion?_literal hnone)
      | found written name => exact withoutExpansions_placeholder written name _

/-! ## Tokens in expansions -/

theorem Outside.sublist {pieces kept : List Piece} (h : Outside pieces kept) :
    kept.Sublist pieces := by
  induction h with
  | nil => exact .slnil
  | expansion _ _ _ ih => exact (((ih.cons _).trans (List.sublist_append_right _ _)).cons _).cons _
  | keep _ _ ih => exact ih.cons_cons _

theorem holdsToken_cons (piece : Piece) (pieces : List Piece) :
    holdsToken (piece :: pieces) =
      ((expansionEnd? (piece :: pieces)).any Piece.isFound || holdsToken pieces) := by
  simp [holdsToken]

section

variable {middle : List Piece} {closer : Piece} (hmiddle : ∀ piece ∈ middle, piece.closes = false)
  (hcloser : closer.closes = true) (rest : List Piece)
include hmiddle hcloser

theorem find?_closes_append : (middle ++ closer :: rest).find? Piece.closes = some closer := by
  rw [List.find?_append, List.find?_eq_none.mpr fun piece hmem => by simp [hmiddle piece hmem],
    List.find?_cons_of_pos hcloser]
  rfl

/-- An expansion that begins before the first piece that can end it ends there. -/
theorem expansionEnd?_append :
    expansionEnd? (middle ++ closer :: rest) = none ∨
      expansionEnd? (middle ++ closer :: rest) = some closer := by
  match middle, hmiddle with
  | [], _ =>
      refine .inl ?_
      unfold expansionEnd?
      split
      · rename_i heq
        rw [(List.cons.inj heq).1] at hcloser
        cases hcloser
      · rfl
  | [brace], _ =>
      refine .inl ?_
      unfold expansionEnd?
      split
      · rename_i heq
        rw [(List.cons.inj (List.cons.inj heq).2).1] at hcloser
        cases hcloser
      · rfl
  | brace :: mark :: middle, hmiddle =>
      unfold expansionEnd?
      split
      · rename_i heq
        obtain ⟨rfl, rfl, rfl⟩ : _ = _ ∧ _ = _ ∧ _ = _ := by simpa using heq
        exact .inr (find?_closes_append (fun piece hmem => hmiddle piece (by simp [hmem])) hcloser _)
      · exact .inl rfl

theorem holdsToken_append :
    (closer.isFound || holdsToken (middle ++ closer :: rest)) =
      (closer.isFound || holdsToken rest) := by
  induction middle with
  | nil =>
      rw [List.nil_append, holdsToken_cons]
      rcases expansionEnd?_append hmiddle hcloser rest with hend | hend <;>
        rw [List.nil_append] at hend <;> simp [hend]
  | cons piece middle ih =>
      rw [List.cons_append, holdsToken_cons]
      have ih := ih fun piece hmem => hmiddle piece (List.mem_cons_of_mem _ hmem)
      rcases expansionEnd?_append hmiddle hcloser rest with hend | hend <;>
        rw [List.cons_append] at hend <;> simp [hend, ih]

/-- An expansion takes in a token exactly when it ends in one. -/
theorem holdsToken_expansion :
    holdsToken (.literal '\x7b' :: .literal '?' :: (middle ++ closer :: rest)) =
      (closer.isFound || holdsToken rest) := by
  have hend : expansionEnd? (.literal '\x7b' :: .literal '?' :: (middle ++ closer :: rest)) =
      some closer := find?_closes_append hmiddle hcloser rest
  have hmark : ∀ piece ∈ Piece.literal '?' :: middle, piece.closes = false :=
    List.forall_mem_cons.mpr ⟨rfl, hmiddle⟩
  rw [holdsToken_cons, hend]
  exact holdsToken_append hmark hcloser rest

end

/-- The second pass keeps every token exactly when no expansion takes one in. -/
theorem Outside.countP_isFound_eq_iff {pieces kept : List Piece} (h : Outside pieces kept) :
    kept.countP Piece.isFound = pieces.countP Piece.isFound ↔ holdsToken pieces = false := by
  induction h with
  | nil => simp [holdsToken, expansionEnd?]
  | @expansion middle rest kept closer hmiddle hcloser hrest ih =>
      have hnone : middle.countP Piece.isFound = 0 := by
        refine List.countP_eq_zero.mpr fun piece hmem hfound => ?_
        have hopen := hmiddle piece hmem
        cases piece with
        | literal c => cases hfound
        | found written name => cases hopen
      have hle : kept.countP Piece.isFound ≤ rest.countP Piece.isFound :=
        hrest.sublist.countP_le
      rw [holdsToken_expansion hmiddle hcloser, Bool.or_eq_false_iff, ← ih]
      cases hfound : closer.isFound with
      | true =>
          simp [List.countP_append, hnone, hfound]
          omega
      | false => simp [List.countP_append, hnone, hfound]
  | @keep piece pieces kept hnone _ ih =>
      rw [holdsToken_cons, hnone, List.countP_cons, List.countP_cons]
      simpa using ih

/-! ## Places -/

/-- The text that a name is put in for. -/
def placeOf (name : String) : List Char := '$' :: '\x7b' :: name.toList ++ ['\x7d']

/-- The placeholders of these names stand in a text, one after the other. -/
inductive HasPlaces : List String → List Char → Prop
  | text (cs : List Char) : HasPlaces [] cs
  | place {name : String} {names : List String} {rest : List Char} (before : List Char)
      (h : HasPlaces names rest) : HasPlaces (name :: names) (before ++ placeOf name ++ rest)

theorem HasPlaces.append {names : List String} {cs : List Char} (h : HasPlaces names cs)
    (text : List Char) : HasPlaces names (text ++ cs) := by
  cases h with
  | text => exact .text _
  | place before h =>
      rw [← List.append_assoc, ← List.append_assoc]
      exact .place (text ++ before) h

/-- Each place needs a dollar sign. -/
theorem HasPlaces.length_le {names : List String} {cs : List Char} (h : HasPlaces names cs) :
    names.length ≤ cs.count '$' := by
  induction h with
  | text cs => exact Nat.zero_le _
  | place before _ ih =>
      simp only [placeOf, List.length_cons, List.count_append, List.cons_append,
        List.count_cons_self]
      omega

/-- The names that the tokens among some pieces imply. -/
def impliedNames (pieces : List Piece) : List String :=
  (pieces.filterMap pathParameter?).map (·.name)

theorem impliedNames_literal (c : Char) (pieces : List Piece) :
    impliedNames (.literal c :: pieces) = impliedNames pieces := rfl

theorem impliedNames_found (written name : List Char) (pieces : List Piece) :
    impliedNames (.found written name :: pieces) =
      camelName (String.ofList name) :: impliedNames pieces := by
  simp [impliedNames, pathParameter?]

theorem length_impliedNames (pieces : List Piece) :
    (impliedNames pieces).length = pieces.countP Piece.isFound := by
  induction pieces with
  | nil => rfl
  | cons piece pieces ih =>
      cases piece with
      | literal c => simpa [impliedNames_literal] using ih
      | found written name =>
          rw [impliedNames_found, List.length_cons, List.countP_cons_of_pos rfl, ih]

theorem hasPlaces_impliedNames (pieces : List Piece) :
    HasPlaces (impliedNames pieces) (pieces.flatMap placeholder) := by
  induction pieces with
  | nil => exact .text []
  | cons piece pieces ih =>
      rw [List.flatMap_cons]
      cases piece with
      | literal c =>
          rw [impliedNames_literal]
          exact ih.append _
      | found written name =>
          have hplace : placeholder (.found written name) =
              placeOf (camelName (String.ofList name)) := rfl
          rw [impliedNames_found, hplace]
          exact .place [] ih

theorem Outside.impliedNames_eq {pieces kept : List Piece} (h : Outside pieces kept)
    (hall : holdsToken pieces = false) : impliedNames kept = impliedNames pieces := by
  have hlength : (impliedNames kept).length = (impliedNames pieces).length := by
    rw [length_impliedNames, length_impliedNames]
    exact h.countP_isFound_eq_iff.mpr hall
  exact ((h.sublist.filterMap _).map _).eq_of_length hlength

/-- Without dollar signs in its other pieces, a route has one for each token. -/
theorem count_dollar {pieces : List Piece} (h : .literal '$' ∉ pieces) :
    (pieces.flatMap placeholder).count '$' = pieces.countP Piece.isFound := by
  induction pieces with
  | nil => rfl
  | cons piece pieces ih =>
      obtain ⟨hpiece, hpieces⟩ := not_or.mp (mt List.mem_cons.mpr h)
      rw [List.flatMap_cons, List.count_append, ih hpieces, List.countP_cons, Nat.add_comm]
      congr 1
      cases piece with
      | literal c =>
          have hc : c ≠ '$' := fun heq => hpiece (heq ▸ rfl)
          simp [hc]
      | found written name =>
          have hname : '$' ∉ (camelName (String.ofList name)).toList :=
            not_mem_camelName (by decide) _
          simp [placeholder, List.count_eq_zero.mpr hname]

/-- Every path parameter has its place in the route, in the order of the tokens, when no query
expansion takes a token in; and only then, if the path has no dollar sign that could pass for a
place. -/
theorem hasPlaces_pathParams (path : String) :
    (holdsToken (tokenPieces path) = false →
      HasPlaces ((ofPath path).pathParams.map (·.name)) (ofPath path).route.toList) ∧
    ('$' ∉ path.toList →
      HasPlaces ((ofPath path).pathParams.map (·.name)) (ofPath path).route.toList →
      holdsToken (tokenPieces path) = false) := by
  obtain ⟨kept, hkept⟩ := exists_outside (tokenPieces path)
  have hroute : (ofPath path).route.toList = kept.flatMap placeholder := by
    rw [← hkept.withoutExpansions]
    exact String.toList_ofList
  have hnames : (ofPath path).pathParams.map (·.name) = impliedNames (tokenPieces path) := rfl
  rw [hroute, hnames]
  constructor
  · intro hall
    rw [← hkept.impliedNames_eq hall]
    exact hasPlaces_impliedNames kept
  · intro hdollar hplaces
    have hliteral : .literal '$' ∉ kept := fun hmem =>
      hdollar (mem_of_literal_mem_cutAt (hkept.sublist.subset hmem))
    have hle := hplaces.length_le
    rw [length_impliedNames, count_dollar hliteral] at hle
    exact hkept.countP_isFound_eq_iff.mp (Nat.le_antisymm hkept.sublist.countP_le hle)

/-- A token before an expansion keeps its place, a token in one loses it. -/
theorem hasPlaces_search :
    ((ofPath "/search/\x7bkind\x7d\x7b?q,page-size\x7d").route = "/search/$\x7bkind\x7d" ∧
      HasPlaces ["kind"] "/search/$\x7bkind\x7d".toList) ∧
    ((ofPath "/search\x7b?sort:dir\x7d").route = "/search\x7d" ∧
      ¬ HasPlaces ["dir"] "/search\x7d".toList) := by
  have hkept := (hasPlaces_pathParams "/search/\x7bkind\x7d\x7b?q,page-size\x7d").1
    (by decide +kernel)
  have hlost := mt ((hasPlaces_pathParams "/search\x7b?sort:dir\x7d").2 (by decide +kernel))
    (by decide +kernel)
  have hkind : (ofPath "/search/\x7bkind\x7d\x7b?q,page-size\x7d").route =
      "/search/$\x7bkind\x7d" ∧
      (ofPath "/search/\x7bkind\x7d\x7b?q,page-size\x7d").pathParams.map (·.name) = ["kind"] := by
    decide +kernel
  have hdir : (ofPath "/search\x7b?sort:dir\x7d").route = "/search\x7d" ∧
      (ofPath "/search\x7b?sort:dir\x7d").pathParams.map (·.name) = ["dir"] := by
    decide +kernel
  rw [hkind.1, hkind.2] at hkept
  rw [hdir.1, hdir.2] at hlost
  exact ⟨⟨hkind.1, hkept⟩, hdir.1, hlost⟩

end ApiRoutes.PathTemplate
