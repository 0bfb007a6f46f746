import ApiRoutes.Text.Basic

/-!
# Quoted literals and property keys

A text inside double quotes has a backslash before each quote and each backslash, so that a reader
who takes the character after a backslash literally finds the end of the literal and the text again
(`unquote_escapeQuoted`).
-/

namespace ApiRoutes.Text

/-- Puts a backslash before each backslash and each quote. -/
def escapeQuoted : List Char → List Char
  | [] => []
  | c :: cs =>
    if c = '\\' || c = '"' then '\\' :: c :: escapeQuoted cs else c :: escapeQuoted cs

def escape (s : String) : String := String.ofList (escapeQuoted s.toList)

def quoted (s : String) : String := "\"" ++ escape s ++ "\""

/-- Reads a literal after its opening quote, a backslash taking the next character literally: the
characters up to the first quote without one, and what follows that quote. -/
def unquote : List Char → Option (List Char × List Char)
  | [] => none
  | '"' :: rest => some ([], rest)
  | '\\' :: c :: rest => (unquote rest).map fun (read, rest) => (c :: read, rest)
  | c :: rest => (unquote rest).map fun (read, rest) => (c :: read, rest)

/-- A reader of a literal finds its end and the text again. -/
theorem unquote_escapeQuoted (cs rest : List Char) :
    unquote (escapeQuoted cs ++ '"' :: rest) = some (cs, rest) := by
  induction cs with
  | nil => rfl
  | cons c cs ih =>
    by_cases h : c = '\\' ∨ c = '"'
    · have hesc : escapeQuoted (c :: cs) = '\\' :: c :: escapeQuoted cs := by
        simp [escapeQuoted, h]
      simp [hesc, unquote, ih]
    · obtain ⟨hback, hquote⟩ := not_or.1 h
      have hplain : escapeQuoted (c :: cs) = c :: escapeQuoted cs := by
        simp [escapeQuoted, hback, hquote]
      rw [hplain, List.cons_append, unquote.eq_def]
      split <;> simp_all

/-- A character that an identifier may start with. -/
def isIdentifierStart (c : Char) : Bool := c.isAlpha || c = '_' || c = '$'

def isIdentifierRest (c : Char) : Bool := c.isAlphanum || c = '_' || c = '$'

/-- Whether a name can stand as a property key without quotes. -/
def isIdentifier (name : String) : Bool :=
  match name.toList with
  | [] => false
  | c :: cs => isIdentifierStart c && cs.all isIdentifierRest

/-- A property key: an identifier as it is, any other name in quotes. -/
def propertyKey (name : String) : String := if isIdentifier name then name else quoted name

end ApiRoutes.Text
