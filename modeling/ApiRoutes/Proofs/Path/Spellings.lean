import ApiRoutes.Naming.PathName
import ApiRoutes.Proofs.Path.Placeholders
import ApiRoutes.Proofs.Text.Splitting

/-!
# Spellings of a path

A parameter in a path may be written `{id}`, `:id` or `:id:`. Three readers look at the path: the
template replaces tokens by placeholders, the naming of routes tells parameters from literal segments,
and the naming of modules cases one segment. Each has its own idea of a token. On a path whose
segments are literals and tokens (`IsSpelling`) they all agree:

- the pieces of the path are those of its segments (`cutAt_segment`), so its route is made of their
  places and depends on the names of the parameters only (`withPlaceholders_of_forall₂`);
- the segments of two spellings are alike one by one (`AlikeWords`), which is all that route and
  module names look at.
-/

namespace ApiRoutes.PathTemplate

/-! ## Segments -/

/-- A segment of a path, whichever way it is written. -/
inductive Segment where
  | literal (text : List Char)
  | parameter (name : List Char)

/-- A name that a token can have. -/
def IsName (name : List Char) : Prop :=
  ∃ first rest, name = first :: rest ∧ isNameStart first = true ∧ ∀ c ∈ rest, isNameRest c = true

/-- The ways to write a segment. Literals are free of what tokens and expansions are written with. -/
inductive Segment.IsWritten : Segment → List Char → Prop
  | literal {text : List Char} (h : ∀ c ∈ text, c ∉ ['\x7b', '\x7d', ':', '?']) :
      IsWritten (.literal text) text
  | parameter {name written : List Char} (hname : IsName name) (h : IsToken name written) :
      IsWritten (.parameter name) written

/-- A path that has these segments, in some spelling. -/
def IsSpelling (segments : List Segment) (path : String) : Prop :=
  ∃ texts, List.Forall₂ Segment.IsWritten segments texts ∧ path.toList = ['/'].intercalate texts

theorem IsName.isNameRest {name : List Char} (h : IsName name) :
    ∀ c ∈ name, isNameRest c = true := by
  obtain ⟨first, rest, rfl, hfirst, hrest⟩ := h
  exact List.forall_mem_cons.mpr ⟨isNameRest_of_isNameStart hfirst, hrest⟩

/-- What a name cannot hold is in no token, unless the token is written with it. -/
theorem not_mem_of_isToken {name written : List Char} {c : Char} (hname : IsName name)
    (h : IsToken name written) (hc : isNameRest c = false) (hne : c ∉ ['\x7b', '\x7d', ':']) :
    c ∉ written := by
  have hnot : c ∉ name := fun hmem => by
    rw [hname.isNameRest c hmem] at hc
    cases hc
  simp only [List.mem_cons, List.not_mem_nil, or_false, not_or] at hne
  cases h <;> simp [hnot, hne]

theorem mark_not_mem_of_isWritten {segment : Segment} {text : List Char}
    (h : segment.IsWritten text) : '?' ∉ text := by
  cases h with
  | literal h => exact fun hmem => h _ hmem (by decide)
  | parameter hname h => exact not_mem_of_isToken hname h (by decide) (by decide)

/-! ## Pieces -/

theorem name?_append {name rest : List Char} (hname : IsName name)
    (hrest : ∀ c ∈ rest.head?, isNameRest c = false) : name? (name ++ rest) = some (name, rest) := by
  obtain ⟨first, inner, rfl, hfirst, hinner⟩ := hname
  have hnone : rest.takeWhile isNameRest = [] ∧ rest.dropWhile isNameRest = rest := by
    cases rest with
    | nil => exact ⟨rfl, rfl⟩
    | cons c rest =>
        have hc := hrest c rfl
        simp [hc]
  rw [List.cons_append, name?, if_pos hfirst, List.takeWhile_append_of_pos hinner,
    List.dropWhile_append_of_pos hinner, hnone.1, hnone.2, List.append_nil]

/-- A token at the end of a segment is found as a whole. -/
theorem token?_append {name written rest : List Char} (hname : IsName name)
    (h : IsToken name written) (hrest : ∀ c ∈ rest.head?, c = '/') :
    token? (written ++ rest) = some (written, name) := by
  cases h with
  | braces =>
      have hfound : name? (name ++ '\x7d' :: rest) = some (name, '\x7d' :: rest) :=
        name?_append hname (by simp [isNameRest])
      simp [token?, hfound]
  | colon =>
      have hfound : name? (name ++ rest) = some (name, rest) :=
        name?_append hname fun c hc => hrest c hc ▸ rfl
      cases rest with
      | nil =>
          rw [List.append_nil] at hfound ⊢
          simp [token?, hfound]
      | cons c rest =>
          obtain rfl := hrest c rfl
          simp [token?, hfound]
  | colons =>
      have hfound : name? (name ++ ':' :: rest) = some (name, ':' :: rest) :=
        name?_append hname (by simp [isNameRest])
      simp [token?, hfound]

theorem token?_of_ne {c : Char} (h : c ≠ '\x7b') (h' : c ≠ ':') (cs : List Char) :
    token? (c :: cs) = none := by
  unfold token?
  split
  · rename_i heq
    exact absurd (List.cons.inj heq).1 h
  · rename_i heq
    exact absurd (List.cons.inj heq).1 h'
  · rfl

/-- The pieces of a segment that is written as this text. -/
def Segment.pieces (text : List Char) : Segment → List Piece
  | literal _ => text.map .literal
  | parameter name => [.found text name]

/-- A segment is cut into its pieces, if a slash follows or nothing. -/
theorem cutAt_segment {segment : Segment} {text rest : List Char} (h : segment.IsWritten text)
    (hrest : ∀ c ∈ rest.head?, c = '/') :
    cutAt token? 0 (text ++ rest) = segment.pieces text ++ cutAt token? 0 rest := by
  cases h with
  | literal h =>
      show _ = text.map Piece.literal ++ _
      induction text with
      | nil => rfl
      | cons c text ih =>
          obtain ⟨hc, htext⟩ := List.forall_mem_cons.mp h
          simp only [List.mem_cons, List.not_mem_nil, or_false, not_or] at hc
          rw [List.cons_append, cutAt_of_none (token?_of_ne hc.1 hc.2.2.1 _), ih htext]
          rfl
  | parameter hname h =>
      have hne : text ≠ [] := by cases h <;> exact List.cons_ne_nil _ _
      exact cutAt_of_found (token?_append hname h hrest) hne

/-- What stands for a segment in the route. -/
def Segment.place : Segment → List Char
  | literal text => text
  | parameter name => placeOf (camelName (String.ofList name))

/-- The name of the path parameter that a segment implies. -/
def Segment.implied? : Segment → Option String
  | literal _ => none
  | parameter name => some (camelName (String.ofList name))

theorem mark_not_mem_place {segment : Segment} {text : List Char} (h : segment.IsWritten text) :
    '?' ∉ segment.place := by
  cases h with
  | literal h => exact mark_not_mem_of_isWritten (.literal h)
  | parameter =>
      have hname := not_mem_camelName (c := '?') (by decide)
      simp [Segment.place, placeOf, hname]

theorem flatMap_placeholder_pieces {segment : Segment} {text : List Char}
    (h : segment.IsWritten text) : (segment.pieces text).flatMap placeholder = segment.place := by
  cases h with
  | literal h => simp [Segment.pieces, Segment.place, List.flatMap_map]
  | parameter => exact List.append_nil _

theorem impliedNames_append (pieces more : List Piece) :
    impliedNames (pieces ++ more) = impliedNames pieces ++ impliedNames more := by
  simp [impliedNames]

theorem impliedNames_pieces {segment : Segment} {text : List Char} (h : segment.IsWritten text) :
    impliedNames (segment.pieces text) = segment.implied?.toList := by
  cases h with
  | literal h => simp [Segment.pieces, Segment.implied?, impliedNames, pathParameter?]
  | parameter => exact impliedNames_found text _ []

theorem intercalate_cons_eq {α : Type} (separator : α) (first : List α) (rest : List (List α)) :
    [separator].intercalate (first :: rest) = first ++ rest.flatMap (separator :: ·) := by
  induction rest generalizing first with
  | nil => simp [List.intercalate_singleton]
  | cons next rest ih =>
      rw [List.intercalate_cons_cons, ih next, List.flatMap_cons]
      simp

theorem head?_behind (texts : List (List Char)) :
    ∀ c ∈ (texts.flatMap ('/' :: ·)).head?, c = '/' := by
  cases texts with
  | nil => exact nofun
  | cons text texts => simp

/-- The pieces of segments with a slash before each. -/
theorem pieces_behind {segments : List Segment} {texts : List (List Char)}
    (h : List.Forall₂ Segment.IsWritten segments texts) :
    (cutAt token? 0 (texts.flatMap ('/' :: ·))).flatMap placeholder
        = (segments.map Segment.place).flatMap ('/' :: ·)
      ∧ impliedNames (cutAt token? 0 (texts.flatMap ('/' :: ·)))
        = segments.filterMap Segment.implied? := by
  induction h with
  | nil => exact ⟨rfl, rfl⟩
  | @cons segment text segments texts hsegment _ ih =>
      have hcut : cutAt token? 0 ((text :: texts).flatMap ('/' :: ·))
          = .literal '/' :: (segment.pieces text ++ cutAt token? 0 (texts.flatMap ('/' :: ·))) := by
        rw [List.flatMap_cons, List.cons_append,
          cutAt_of_none (token?_of_ne (by decide) (by decide) _),
          cutAt_segment hsegment (head?_behind texts)]
      rw [hcut]
      constructor
      · rw [List.flatMap_cons, List.flatMap_append, ih.1, flatMap_placeholder_pieces hsegment]
        rfl
      · rw [impliedNames_literal, impliedNames_append, ih.2, impliedNames_pieces hsegment]
        cases segment <;> rfl

variable {segments : List Segment} {path other : String}

theorem IsSpelling.tokenPieces (h : IsSpelling segments path) :
    withPlaceholders path = ['/'].intercalate (segments.map Segment.place)
      ∧ impliedNames (tokenPieces path) = segments.filterMap Segment.implied? := by
  obtain ⟨texts, hwritten, hpath⟩ := h
  unfold withPlaceholders PathTemplate.tokenPieces
  rw [hpath]
  cases hwritten with
  | nil => exact ⟨rfl, rfl⟩
  | @cons segment text segments texts hsegment hrest =>
      obtain ⟨hplaces, hnames⟩ := pieces_behind hrest
      rw [List.map_cons, intercalate_cons_eq, intercalate_cons_eq,
        cutAt_segment hsegment (head?_behind texts)]
      constructor
      · rw [List.flatMap_append, flatMap_placeholder_pieces hsegment, hplaces]
      · rw [impliedNames_append, impliedNames_pieces hsegment, hnames]
        cases segment <;> rfl

/-! ## No expansions -/

theorem not_mem_intercalate {c separator : Char} (hne : c ≠ separator) {texts : List (List Char)}
    (h : ∀ text ∈ texts, c ∉ text) : c ∉ [separator].intercalate texts := by
  cases texts with
  | nil => exact List.not_mem_nil
  | cons first rest =>
      obtain ⟨hfirst, hrest⟩ := List.forall_mem_cons.mp h
      rw [intercalate_cons_eq, List.mem_append, List.mem_flatMap]
      rintro (hmem | ⟨text, htext, hmem⟩)
      · exact hfirst hmem
      · exact (List.mem_cons.mp hmem).elim hne (hrest text htext)

/-- Without question marks nothing is an expansion. -/
theorem cutAt_expansion?_of_not_mem {cs : List Char} (h : '?' ∉ cs) :
    cutAt expansion? 0 cs = cs.map .literal := by
  induction cs with
  | nil => rfl
  | cons c cs ih =>
      have hcs : '?' ∉ cs := fun hmem => h (List.mem_cons_of_mem c hmem)
      have hnone : expansion? (c :: cs) = none := by
        by_cases hc : c = '\x7b'
        · rw [hc]
          exact expansion?_of_head_ne fun hhead => hcs (List.mem_of_mem_head? hhead)
        · exact expansion?_of_ne hc cs
      rw [cutAt_of_none hnone, ih hcs, List.map_cons]

theorem pathBeforeQuery_of_not_mem (h : '?' ∉ path.toList) : pathBeforeQuery path = path.toList := by
  have hnone : ¬ Text.occurs ['\x7b', '?'] path.toList = true := by
    rw [Text.occurs_iff_isInfix]
    exact fun hoccurs => h (hoccurs.subset (by decide))
  rw [Text.occurs, Bool.not_eq_true, Option.isSome_eq_false_iff, Option.isNone_iff_eq_none] at hnone
  rw [pathBeforeQuery, Text.before, hnone]

theorem mark_not_mem_of_forall₂ {texts : List (List Char)}
    (h : List.Forall₂ Segment.IsWritten segments texts) :
    (∀ text ∈ texts, '?' ∉ text) ∧ ∀ place ∈ segments.map Segment.place, '?' ∉ place := by
  induction h with
  | nil => exact ⟨List.forall_mem_nil _, List.forall_mem_nil _⟩
  | cons hsegment _ ih =>
      exact ⟨List.forall_mem_cons.mpr ⟨mark_not_mem_of_isWritten hsegment, ih.1⟩,
        List.forall_mem_cons.mpr ⟨mark_not_mem_place hsegment, ih.2⟩⟩

/-- What a template is made of, if it comes from these segments. -/
structure ReadsAs (segments : List Segment) (path : String) : Prop where
  route : (ofPath path).route = String.ofList (['/'].intercalate (segments.map Segment.place))
  pathParams : (ofPath path).pathParams.map (·.name) = segments.filterMap Segment.implied?
  queryParams : (ofPath path).queryParams = []

theorem IsSpelling.readsAs (h : IsSpelling segments path) : ReadsAs segments path := by
  obtain ⟨hplaces, hnames⟩ := h.tokenPieces
  obtain ⟨texts, hwritten, -⟩ := h
  have hmark : '?' ∉ withPlaceholders path :=
    hplaces ▸ not_mem_intercalate (by decide) (mark_not_mem_of_forall₂ hwritten).2
  have hcut := cutAt_expansion?_of_not_mem hmark
  constructor
  case route =>
    show String.ofList (withoutExpansions (withPlaceholders path)) = _
    rw [withoutExpansions, hcut, ← hplaces, List.flatMap_map]
    simp
  case pathParams => exact hnames
  case queryParams =>
    have hnone : queryNames (withPlaceholders path) = [] := by
      rw [queryNames, hcut, List.flatMap_map]
      exact List.flatMap_eq_nil_iff.mpr fun _ _ => rfl
    show queryParameters (queryNames (withPlaceholders path)) = []
    rw [hnone]
    rfl

/-! ## Words of spellings -/

/-- Two words that stand for one segment. -/
inductive AlikeWords : List Char → List Char → Prop
  | literal {word : List Char} (h : isParameterSegment word = false) : AlikeWords word word
  | parameter {name written other : List Char} (h : IsToken name written)
      (h' : IsToken name other) : AlikeWords written other

theorem isParameterSegment_of_isToken {name written : List Char} (h : IsToken name written) :
    isParameterSegment written = true := by
  cases h with
  | braces =>
      have hlast : ('\x7b' :: name ++ ['\x7d']).getLast? = some '\x7d' := List.getLast?_concat
      simp only [isParameterSegment, hlast]
      rfl
  | colon => rfl
  | colons => rfl

theorem camelName_eq_lowerCamelCase (name : String) :
    camelName name = Text.lowerCamelCase (identifierWords name) := by
  rw [camelName, Casings.of]

/-- The delimiters of a token take no part in its casing. -/
theorem camelName_of_isToken {name written : List Char} (h : IsToken name written) :
    camelName (String.ofList written) = camelName (String.ofList name) := by
  have hwords : Text.wordsBy (!Text.isAlphanumeric ·) written
      = Text.wordsBy (!Text.isAlphanumeric ·) name := by
    have hbehind : ∀ (c : Char) (rest : List Char), Text.isAlphanumeric c = false →
        Text.wordsBy (!Text.isAlphanumeric ·) (c :: rest)
          = Text.wordsBy (!Text.isAlphanumeric ·) rest := fun c rest hc =>
      Text.wordsBy_append_cons (by simp [hc]) [] rest
    have hbefore : ∀ c : Char, Text.isAlphanumeric c = false →
        Text.wordsBy (!Text.isAlphanumeric ·) (name ++ [c])
          = Text.wordsBy (!Text.isAlphanumeric ·) name := fun c hc =>
      (Text.wordsBy_append_cons (by simp [hc]) name []).trans (List.append_nil _)
    cases h with
    | braces => exact (hbehind _ _ (by decide)).trans (hbefore _ (by decide))
    | colon => exact hbehind _ _ (by decide)
    | colons => exact (hbehind _ _ (by decide)).trans (hbefore _ (by decide))
  have hsame : identifierWords (String.ofList written) = identifierWords (String.ofList name) :=
    identifierWords_congr (by rw [String.toList_ofList, String.toList_ofList]; exact hwords)
  rw [camelName_eq_lowerCamelCase, camelName_eq_lowerCamelCase, hsame]

namespace AlikeWords

variable {word other : List Char}

theorem isParameterSegment_eq (h : AlikeWords word other) :
    isParameterSegment word = isParameterSegment other := by
  cases h with
  | literal => rfl
  | parameter h h' => rw [isParameterSegment_of_isToken h, isParameterSegment_of_isToken h']

theorem camelName_eq (h : AlikeWords word other) :
    camelName (String.ofList word) = camelName (String.ofList other) := by
  cases h with
  | literal => rfl
  | parameter h h' => rw [camelName_of_isToken h, camelName_of_isToken h']

/-- Literal segments are the same in both. -/
theorem filter_eq {words others : List (List Char)} (h : List.Forall₂ AlikeWords words others) :
    words.filter (!isParameterSegment ·) = others.filter (!isParameterSegment ·) := by
  induction h with
  | nil => rfl
  | cons hword _ ih =>
      rw [List.filter_cons, List.filter_cons, ih, hword.isParameterSegment_eq]
      cases hword with
      | literal => rfl
      | parameter _ h' => simp [isParameterSegment_of_isToken h']

end AlikeWords

theorem isParameterSegment_of_literal {text word : List Char}
    (h : ∀ c ∈ text, c ∉ ['\x7b', '\x7d', ':', '?'])
    (hword : word ∈ Text.wordsBy (· = '/') text) : isParameterSegment word = false := by
  cases word with
  | nil => rfl
  | cons c word =>
      have hc := h c (Text.mem_of_mem_wordsBy hword List.mem_cons_self)
      simp only [List.mem_cons, List.not_mem_nil, or_false, not_or] at hc
      simp [isParameterSegment, hc.1, hc.2.2.1]

theorem wordsBy_of_isToken {name written : List Char} (hname : IsName name)
    (h : IsToken name written) : Text.wordsBy (· = '/') written = [written] := by
  have hslash : '/' ∉ written := not_mem_of_isToken hname h (by decide) (by decide)
  refine Text.wordsBy_of_forall (fun c hc => ?_) (by cases h <;> exact List.cons_ne_nil _ _)
  exact decide_eq_false fun heq => hslash (heq ▸ hc)

theorem alikeWords_of_isWritten {segment : Segment} {text other : List Char}
    (h : segment.IsWritten text) (h' : segment.IsWritten other) :
    List.Forall₂ AlikeWords (Text.wordsBy (· = '/') text) (Text.wordsBy (· = '/') other) := by
  cases h with
  | literal h =>
      cases h'
      exact List.forall₂_same.mpr fun word hword =>
        .literal (isParameterSegment_of_literal h hword)
  | parameter hname h =>
      cases h' with
      | parameter _ h' =>
          rw [wordsBy_of_isToken hname h, wordsBy_of_isToken hname h']
          exact .cons (.parameter h h') .nil

theorem IsSpelling.pathSegments_eq (h : IsSpelling segments path) :
    ∃ texts, List.Forall₂ Segment.IsWritten segments texts
      ∧ pathSegments path = texts.flatMap (Text.wordsBy (· = '/')) := by
  obtain ⟨texts, hwritten, hpath⟩ := h
  refine ⟨texts, hwritten, ?_⟩
  have hmark : '?' ∉ path.toList :=
    hpath ▸ not_mem_intercalate (by decide) (mark_not_mem_of_forall₂ hwritten).1
  rw [pathSegments, pathBeforeQuery_of_not_mem hmark, hpath]
  exact Text.wordsBy_intercalate (by decide) texts

/-- The segments of two spellings are alike one by one. -/
theorem alikeWords_pathSegments (h : IsSpelling segments path) (h' : IsSpelling segments other) :
    List.Forall₂ AlikeWords (pathSegments path) (pathSegments other) := by
  obtain ⟨texts, hwritten, hpath⟩ := h.pathSegments_eq
  obtain ⟨texts', hwritten', hother⟩ := h'.pathSegments_eq
  rw [hpath, hother]
  clear h h' hpath hother
  induction hwritten generalizing texts' with
  | nil =>
      cases hwritten'
      exact .nil
  | cons hsegment _ ih =>
      cases hwritten' with
      | cons hsegment' hrest' =>
          rw [List.flatMap_cons, List.flatMap_cons]
          exact List.rel_append (alikeWords_of_isWritten hsegment hsegment') (ih _ hrest')

theorem map_eq_of_alikeWords {β : Type} {f : List Char → β} {words others : List (List Char)}
    (h : List.Forall₂ AlikeWords words others)
    (hf : ∀ {word other}, AlikeWords word other → f word = f other) :
    words.map f = others.map f := by
  induction h with
  | nil => rfl
  | cons hword _ ih => rw [List.map_cons, List.map_cons, hf hword, ih]

theorem pathName_eq_of_alikeWords
    (h : List.Forall₂ AlikeWords (pathSegments path) (pathSegments other)) (method : String) :
    pathName method path = pathName method other := by
  have hkinds := map_eq_of_alikeWords h AlikeWords.isParameterSegment_eq
  have hliterals := AlikeWords.filter_eq h
  unfold pathName
  simp only [← List.getLast?_map, hkinds, hliterals]

theorem namespaceOf_eq_of_alikeWords
    (h : List.Forall₂ AlikeWords (pathSegments path) (pathSegments other))
    (options : ModuleOptions) (tags : List String) :
    namespaceOf options path tags = namespaceOf options other tags := by
  have hnames := map_eq_of_alikeWords h AlikeWords.camelName_eq
  unfold namespaceOf
  simp only [← List.getElem?_map, hnames]

/-- What is read off two paths is the same. -/
structure ReadAlike (path other : String) : Prop where
  route : (ofPath path).route = (ofPath other).route
  pathParams : (ofPath path).pathParams.map (·.name) = (ofPath other).pathParams.map (·.name)
  queryParams : (ofPath path).queryParams.map (·.name) = (ofPath other).queryParams.map (·.name)
  pathName : ∀ method, pathName method path = pathName method other
  namespaceOf : ∀ options tags, namespaceOf options path tags = namespaceOf options other tags

/-- **Spellings.** Two paths with the same segments are read alike, however their tokens are written;
and the template of each is that of the segments. -/
theorem readAlike_of_isSpelling (h : IsSpelling segments path) (h' : IsSpelling segments other) :
    ReadAlike path other ∧ ReadsAs segments path := by
  have hpath := h.readsAs
  have hother := h'.readsAs
  have halike := alikeWords_pathSegments h h'
  refine ⟨⟨?_, ?_, ?_, ?_, ?_⟩, hpath⟩
  · rw [hpath.route, hother.route]
  · rw [hpath.pathParams, hother.pathParams]
  · rw [hpath.queryParams, hother.queryParams]
  · exact pathName_eq_of_alikeWords halike
  · exact namespaceOf_eq_of_alikeWords halike

/-- The segments of `/users/{user-id}/toys/{_n}`. -/
def toySegments : List Segment :=
  [.literal [], .literal ['u', 's', 'e', 'r', 's'],
    .parameter ['u', 's', 'e', 'r', '-', 'i', 'd'], .literal ['t', 'o', 'y', 's'],
    .parameter ['_', 'n']]

/-- Two spellings of the path of a toy. -/
theorem readAlike_toy :
    ReadAlike "/users/\x7buser-id\x7d/toys/:_n:" "/users/:user-id/toys/\x7b_n\x7d"
      ∧ (ofPath "/users/:user-id/toys/\x7b_n\x7d").pathParams.map (·.name) = ["userId", "n"]
      ∧ ApiRoutes.pathName "GET" "/users/:user-id/toys/\x7b_n\x7d" = "getUsersToy"
      ∧ namespaceOf { pathIndex := 1 } "/users/:user-id/toys/\x7b_n\x7d" [] = some "userId" := by
  have hid : IsName ['u', 's', 'e', 'r', '-', 'i', 'd'] :=
    ⟨_, _, rfl, rfl, List.all_eq_true.mp rfl⟩
  have hn : IsName ['_', 'n'] := ⟨_, _, rfl, rfl, List.all_eq_true.mp rfl⟩
  have hwritten : ∀ {id n : List Char}, IsToken ['u', 's', 'e', 'r', '-', 'i', 'd'] id →
      IsToken ['_', 'n'] n → List.Forall₂ Segment.IsWritten toySegments
        [[], ['u', 's', 'e', 'r', 's'], id, ['t', 'o', 'y', 's'], n] := fun hid' hn' =>
    .cons (.literal (by simp)) <| .cons (.literal (by simp)) <| .cons (.parameter hid hid') <|
      .cons (.literal (by simp)) <| .cons (.parameter hn hn') .nil
  exact ⟨(readAlike_of_isSpelling ⟨_, hwritten .braces .colons, rfl⟩
    ⟨_, hwritten .colon .braces, rfl⟩).1, by decide +kernel, by decide +kernel, by decide +kernel⟩

end ApiRoutes.PathTemplate
