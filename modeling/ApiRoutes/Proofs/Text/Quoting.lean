import ApiRoutes.Proofs.Text.Brackets
import ApiRoutes.Route.Responses
import ApiRoutes.Template.Filters

/-!
# Literals that cannot be broken out of

A text between quotes is put there by two replacements, first of the backslashes and then of the
quotes (`escape_eq_replace`); in the other order the backslashes of the quotes would be doubled. A
reader for whom a backslash takes the next character literally finds the end of the literal where it
was put, and the text in it (`readLiteral?_quoted`).

So two texts are never quoted alike (`quoted_injective`), and since no identifier begins with a
quote, two names never have one property key (`propertyKey_injective`). In an envelope the text of
the status stands between two fixed parts, and is read where the first of them ends
(`ResponseInfo.envelope_eq`).
-/

namespace ApiRoutes

namespace Text

/-! ## Escaping as replacement -/

open Template.Value (replaceFrom replace)

/-- Replacing a single character goes through the text character by character. -/
theorem replaceFrom_singleton (c : Char) (by_ cs : List Char) :
    replaceFrom [c] by_ 0 cs = cs.flatMap fun d => if d = c then by_ else [d] := by
  induction cs with
  | nil => rfl
  | cons d cs ih =>
      rw [List.flatMap_cons, ← ih]
      by_cases h : d = c
      · simp [replaceFrom, dropStart?, h]
      · simp [replaceFrom, dropStart?, h, Ne.symm h]

theorem escapeQuoted_eq_flatMap (cs : List Char) :
    escapeQuoted cs = cs.flatMap fun c => if c = '\\' || c = '"' then ['\\', c] else [c] := by
  induction cs with
  | nil => rfl
  | cons c cs ih =>
      rw [escapeQuoted, ih, List.flatMap_cons]
      split <;> rfl

theorem replace_singleton (s : String) (c : Char) (by_ : String) :
    replace s (String.singleton c) by_
      = String.ofList (s.toList.flatMap fun d => if d = c then by_.toList else [d]) := by
  rw [replace, if_neg (by simp), String.toList_singleton, replaceFrom_singleton]

/-- Backslashes are doubled first, then quotes get a backslash. -/
theorem escape_eq_replace (s : String) :
    escape s = replace (replace s "\\" "\\\\") "\"" "\\\"" := by
  have hback : replace s "\\" "\\\\"
      = String.ofList (s.toList.flatMap fun d => if d = '\\' then ['\\', '\\'] else [d]) :=
    replace_singleton s '\\' "\\\\"
  have hquote : ∀ t : String, replace t "\"" "\\\""
      = String.ofList (t.toList.flatMap fun d => if d = '"' then ['\\', '"'] else [d]) :=
    fun t => replace_singleton t '"' "\\\""
  -- what the two replacements make of one character
  have hboth : ∀ c : Char,
      (if c = '\\' then ['\\', '\\'] else [c]).flatMap
          (fun d => if d = '"' then ['\\', '"'] else [d])
        = if c = '\\' || c = '"' then ['\\', c] else [c] := by
    intro c
    by_cases h : c = '\\'
    · subst h
      decide
    · by_cases h' : c = '"' <;> simp [h, h']
  rw [hback, hquote, String.toList_ofList, List.flatMap_assoc, escape, escapeQuoted_eq_flatMap]
  exact congrArg (fun f => String.ofList (s.toList.flatMap f)) (funext fun c => (hboth c).symm)

/-! ## Reading literals -/

/-- Reads the literal that a text begins with: the characters in it, and what follows it. -/
def readLiteral? : List Char → Option (List Char × List Char)
  | '"' :: rest => unquote rest
  | _ => none

/-- The first quote without a backslash is the one that was put at the end, and the text is read. -/
theorem readLiteral?_quoted (s : String) (rest : List Char) :
    readLiteral? ((quoted s).toList ++ rest) = some (s.toList, rest) := by
  rw [toList_quoted, List.cons_append, List.append_assoc]
  exact unquote_escapeQuoted s.toList rest

theorem quoted_injective : Function.Injective quoted := by
  intro s t h
  have hs := readLiteral?_quoted s []
  rw [h, readLiteral?_quoted] at hs
  exact String.toList_injective (Prod.mk.inj (Option.some.inj hs)).1.symm

/-! ## Property keys -/

/-- No identifier reads like a literal. -/
theorem ne_quoted_of_isIdentifier {name : String} (h : isIdentifier name = true) (s : String) :
    name ≠ quoted s := by
  rintro rfl
  rw [isIdentifier, toList_quoted] at h
  exact absurd h (by simp [isIdentifierStart])

theorem propertyKey_injective : Function.Injective propertyKey := by
  intro name other h
  unfold propertyKey at h
  split at h <;> split at h
  case isTrue.isTrue => exact h
  case isTrue.isFalse hname _ => exact absurd h (ne_quoted_of_isIdentifier hname other)
  case isFalse.isTrue _ hother => exact absurd h.symm (ne_quoted_of_isIdentifier hother name)
  case isFalse.isFalse => exact quoted_injective h

end Text

/-! ## Envelopes -/

namespace ResponseInfo

/-- The status of a response as its envelope shows it. -/
def shownStatus (response : ResponseInfo) : String :=
  match response.status.number? with
  | some code => Nat.repr code
  | none => "number"

/-- An envelope up to the literal of the status text. -/
def envelopeStart (response : ResponseInfo) : String :=
  "\x7b data: " ++ response.type ++ "; status: " ++ response.shownStatus ++ "; statusCode: " ++
    response.shownStatus ++ "; statusText: "

/-- What follows the literal. -/
def envelopeEnd (response : ResponseInfo) : String :=
  "; headers: " ++ headersType response.headers ++ "; config: \x7b\x7d \x7d"

theorem envelope_eq (response : ResponseInfo) : response.envelope
    = response.envelopeStart ++ Text.quoted response.description ++ response.envelopeEnd := by
  have hshown : response.envelope = "\x7b data: " ++ response.type ++ "; status: " ++
      response.shownStatus ++ "; statusCode: " ++ response.shownStatus ++ "; statusText: " ++
      Text.quoted response.description ++ "; headers: " ++ headersType response.headers ++
      "; config: \x7b\x7d \x7d" := by
    unfold envelope shownStatus
    rfl
  rw [hshown, envelopeStart, envelopeEnd]
  simp only [String.append_assoc]

end ResponseInfo

/-- **Quoting.** An escaped text between quotes is read as the text, up to the last of the
characters; names with one property key are one name; and where an envelope has its status text, a
literal is read that is the response's description, with the rest of the envelope behind it. -/
theorem literals_read_back :
    (∀ s : String, Text.readLiteral? ("\"" ++ Text.escape s ++ "\"").toList = some (s.toList, []))
      ∧ Function.Injective Text.propertyKey
      ∧ ∀ response : ResponseInfo, ∃ literal : String,
        response.envelope = response.envelopeStart ++ literal
          ∧ Text.readLiteral? literal.toList
            = some (response.description.toList, response.envelopeEnd.toList) := by
  refine ⟨fun s => ?_, Text.propertyKey_injective, fun response => ?_⟩
  · have hread := Text.readLiteral?_quoted s []
    rwa [List.append_nil] at hread
  · refine ⟨Text.quoted response.description ++ response.envelopeEnd, ?_, ?_⟩
    · rw [response.envelope_eq, String.append_assoc]
    · rw [String.toList_append]
      exact Text.readLiteral?_quoted response.description response.envelopeEnd.toList

end ApiRoutes
