import ApiRoutes.Text.Basic
import ApiRoutes.Text.CaseMap

/-!
# Casing

A text is a sequence of words, whichever way it is written: `pet-id`, `petId` and `PET_ID` are the
words `pet` and `id`. A word ends at a character that is neither letter nor number, where a lower
case run meets an upper case character (`pet|Id`), and before the last capital of an upper case run
that a lower case character follows (`HTTP|Server`). `casedWords` finds the words; the four casings
write them down again.
-/

namespace ApiRoutes.Text

/-- Whether the characters of the current word seen last were lower or upper case; at the start of a
word neither. Numbers and letters without case leave it as it is. -/
inductive WordMode where
  | start
  | lower
  | upper
  deriving DecidableEq, Repr

def WordMode.after (mode : WordMode) (c : Char) : WordMode :=
  if isLowercase c then .lower else if isUppercase c then .upper else mode

/-- Cuts an alphanumeric run at its changes of case. `word` is what is already read of the current
word. -/
def cutWords (mode : WordMode) (word : List Char) : List Char → List (List Char)
  | [] => []
  | [c] => [word ++ [c]]
  | c :: next :: rest =>
    if mode.after c = .lower && isUppercase next then
      (word ++ [c]) :: cutWords .start [] (next :: rest)
    else if mode = .upper && isUppercase c && isLowercase next then
      word :: cutWords .start [c] (next :: rest)
    else
      cutWords (mode.after c) (word ++ [c]) (next :: rest)

def casedWords (s : String) : List (List Char) :=
  (splitBy (!isAlphanumeric ·) s.toList).flatMap (cutWords .start [])

/-- A word in lower case; a sigma that ends it takes its final form. -/
def lowerWord : List Char → List Char
  | [] => []
  | ['Σ'] => ['ς']
  | c :: cs => toLowercase c ++ lowerWord cs

def upperWord (word : List Char) : List Char := word.flatMap toUppercase

/-- A word in lower case but for its first character. -/
def capitalWord : List Char → List Char
  | [] => []
  | c :: cs => toUppercase c ++ lowerWord cs

/-- Words run together, each with a capital: `PetId`. -/
def pascalCase (s : String) : String :=
  String.ofList ((casedWords s).flatMap capitalWord)

/-- Words run together, each but the first with a capital: `petId`. -/
def lowerCamelCase (s : String) : String :=
  match casedWords s with
  | [] => ""
  | word :: words => String.ofList (lowerWord word ++ words.flatMap capitalWord)

/-- Lower case words joined by underscores: `pet_id`. -/
def snakeCase (s : String) : String :=
  joinWith "_" ((casedWords s).map (String.ofList ∘ lowerWord))

/-- Upper case words joined by underscores: `PET_ID`. -/
def shoutyCase (s : String) : String :=
  joinWith "_" ((casedWords s).map (String.ofList ∘ upperWord))

end ApiRoutes.Text
