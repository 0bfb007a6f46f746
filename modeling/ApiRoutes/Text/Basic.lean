import ApiRoutes.Text.CharClass

/-!
# Cutting and joining texts

The operations on texts that names, paths and descriptions are made with. They work on lists of
characters, so that each is a recursion or a fold over the data; a `String` is turned into its
characters at the edge. Cutting a text loses nothing (`eq_of_cut?_eq_some`), and leaving out repeats
keeps every element once (`mem_distinct`, `nodup_distinct`).
-/

namespace ApiRoutes.Text

/-- The pieces between separators, empty ones included: one more than there are separators. -/
def splitBy (isSeparator : Char → Bool) : List Char → List (List Char)
  | [] => [[]]
  | c :: cs =>
    if isSeparator c then [] :: splitBy isSeparator cs
    else
      match splitBy isSeparator cs with
      | [] => [[c]]
      | piece :: pieces => (c :: piece) :: pieces

/-- The non-empty pieces between separators. -/
def wordsBy (isSeparator : Char → Bool) (cs : List Char) : List (List Char) :=
  (splitBy isSeparator cs).filter (!·.isEmpty)

/-- What follows `start`, if the text begins with it. -/
def dropStart? : List Char → List Char → Option (List Char)
  | [], cs => some cs
  | _ :: _, [] => none
  | p :: ps, c :: cs => if p = c then dropStart? ps cs else none

/-- Exactly the texts that begin with `start` have something that follows it. -/
theorem dropStart?_eq_some_iff {start cs rest : List Char} :
    dropStart? start cs = some rest ↔ cs = start ++ rest := by
  induction start generalizing cs with
  | nil => simp [dropStart?, eq_comm]
  | cons p ps ih =>
    cases cs with
    | nil => simp [dropStart?]
    | cons c cs =>
      by_cases h : p = c
      · simp [dropStart?, h, ih]
      · simp [dropStart?, h, Ne.symm h]

/-- What precedes `ending`, if the text ends with it. -/
def dropEnd? (ending cs : List Char) : Option (List Char) :=
  (dropStart? ending.reverse cs.reverse).map List.reverse

theorem dropEnd?_eq_some_iff {ending cs start : List Char} :
    dropEnd? ending cs = some start ↔ cs = start ++ ending := by
  constructor
  · intro h
    obtain ⟨rest, hrest, rfl⟩ := Option.map_eq_some_iff.1 h
    rw [← List.reverse_reverse cs, dropStart?_eq_some_iff.1 hrest]
    simp
  · rintro rfl
    have hrest : dropStart? ending.reverse (ending.reverse ++ start.reverse) = some start.reverse :=
      dropStart?_eq_some_iff.2 rfl
    rw [dropEnd?, List.reverse_append, hrest, Option.map_some, List.reverse_reverse]

/-- The text before and after the first occurrence of `pattern`. -/
def cut? (pattern : List Char) : List Char → Option (List Char × List Char)
  | [] => if pattern.isEmpty then some ([], []) else none
  | c :: cs =>
    match dropStart? pattern (c :: cs) with
    | some rest => some ([], rest)
    | none => (cut? pattern cs).map fun (before, after) => (c :: before, after)

/-- The two parts of a cut, with the pattern between them, make up the text. -/
theorem eq_of_cut?_eq_some {pattern cs before after : List Char}
    (h : cut? pattern cs = some (before, after)) : cs = before ++ pattern ++ after := by
  induction cs generalizing before after with
  | nil =>
    unfold cut? at h
    split at h
    · simp_all
    · simp at h
  | cons c cs ih =>
    unfold cut? at h
    split at h
    · rename_i rest hrest
      obtain ⟨rfl, rfl⟩ := Prod.mk.injEq .. ▸ Option.some.inj h
      simpa using dropStart?_eq_some_iff.1 hrest
    · obtain ⟨⟨b, a⟩, hcut, hparts⟩ := Option.map_eq_some_iff.1 h
      obtain ⟨rfl, rfl⟩ := Prod.mk.injEq .. ▸ hparts
      simp [ih hcut]

/-- Whether `pattern` occurs in the text. -/
def occurs (pattern cs : List Char) : Bool := (cut? pattern cs).isSome

theorem occurs_iff_isInfix {pattern cs : List Char} : occurs pattern cs = true ↔ pattern <:+: cs := by
  induction cs with
  | nil => cases pattern <;> simp [occurs, cut?]
  | cons c cs ih =>
    rw [List.infix_cons_iff, ← ih, occurs, occurs, cut?]
    cases hdrop : dropStart? pattern (c :: cs) with
    | some rest => simp [dropStart?_eq_some_iff.1 hdrop]
    | none =>
      have hstart : ¬ pattern <+: c :: cs := fun ⟨rest, hrest⟩ => by
        rw [dropStart?_eq_some_iff.2 hrest.symm] at hdrop
        cases hdrop
      simp [hstart]

/-- The text up to the first occurrence of `pattern`, the whole text where there is none. -/
def before (pattern cs : List Char) : List Char :=
  match cut? pattern cs with
  | some (start, _) => start
  | none => cs

/-- The text without the characters at its end that satisfy `p`. -/
def dropEndWhile (p : Char → Bool) (cs : List Char) : List Char :=
  (cs.reverse.dropWhile p).reverse

def trimStart (cs : List Char) : List Char := cs.dropWhile isBlank

def trimEnd (cs : List Char) : List Char := dropEndWhile isBlank cs

def trim (cs : List Char) : List Char := trimEnd (trimStart cs)

/-- A line without the carriage return that may end it. -/
def chompReturn (line : List Char) : List Char :=
  match line.reverse with
  | '\r' :: rest => rest.reverse
  | _ => line

/-- The lines of a text. A line feed ends a line, together with a carriage return before it; what
follows the last line feed is a line only if it is not empty. -/
def lines (cs : List Char) : List (List Char) :=
  let pieces := splitBy (· = '\n') cs
  let closed := pieces.dropLast.map chompReturn
  match pieces.getLast? with
  | some (c :: rest) => closed ++ [c :: rest]
  | _ => closed

/-- The texts one after the other, with `separator` between neighbours. -/
def joinWith (separator : String) : List String → String
  | [] => ""
  | [x] => x
  | x :: y :: rest => x ++ separator ++ joinWith separator (y :: rest)

section

variable {α : Type} [DecidableEq α]

/-- The elements seen so far together with one more, unless it is among them. -/
def addNew (seen : List α) (x : α) : List α := if x ∈ seen then seen else seen ++ [x]

/-- The elements without repeats, in the order of their first occurrence. -/
def distinct (xs : List α) : List α := xs.foldl addNew []

theorem mem_foldl_addNew {x : α} {xs : List α} (seen : List α) :
    x ∈ xs.foldl addNew seen ↔ x ∈ seen ∨ x ∈ xs := by
  induction xs generalizing seen with
  | nil => simp
  | cons y ys ih =>
    rw [List.foldl_cons, ih, addNew]
    split <;> grind

theorem nodup_foldl_addNew (xs : List α) {seen : List α} (h : seen.Nodup) :
    (xs.foldl addNew seen).Nodup := by
  induction xs generalizing seen with
  | nil => exact h
  | cons y ys ih =>
    refine ih ?_
    unfold addNew
    split
    · exact h
    · grind

/-- No element is lost with its repeats. -/
@[simp] theorem mem_distinct {x : α} {xs : List α} : x ∈ distinct xs ↔ x ∈ xs := by
  simp [distinct, mem_foldl_addNew]

theorem prefix_foldl_addNew (xs seen : List α) : seen <+: xs.foldl addNew seen := by
  induction xs generalizing seen with
  | nil => exact List.prefix_rfl
  | cons y ys ih =>
    refine List.IsPrefix.trans ?_ (ih (addNew seen y))
    unfold addNew
    split
    · exact List.prefix_rfl
    · exact List.prefix_append _ _

/-- The first element stays the first one. -/
theorem exists_distinct_cons (x : α) (xs : List α) : ∃ rest, distinct (x :: xs) = x :: rest := by
  obtain ⟨rest, hrest⟩ := prefix_foldl_addNew xs [x]
  exact ⟨rest, hrest.symm⟩

/-- No element is left twice. -/
theorem nodup_distinct (xs : List α) : (distinct xs).Nodup := nodup_foldl_addNew xs List.nodup_nil

end

/-- The texts without blanks at either end. -/
def trimmed (s : String) : String := String.ofList (trim s.toList)

/-- Joins the distinct texts among `items`, each at its first place. -/
def joinDistinct (separator : String) (items : List String) : String :=
  joinWith separator (distinct items)

end ApiRoutes.Text
