import ApiRoutes.Text.Listing

/-!
# Argument names

The arguments of one call must differ in name. Names are handed out one after the other: each is the
first candidate that is not reserved, and is reserved from then on.
-/

namespace ApiRoutes

/-- Every candidate for an argument name is already taken. -/
structure ArgNameError where
  candidates : List String
  reserved : List String
  deriving DecidableEq, Repr, Inhabited

def ArgNameError.message (error : ArgNameError) : String :=
  "no free argument name among " ++ Text.listing error.candidates ++ " (reserved: " ++
    Text.listing error.reserved ++ ")"

/-- The names that are taken, in the order in which they were. -/
structure ArgNames where
  reserved : List String
  deriving DecidableEq, Repr, Inhabited

namespace ArgNames

/-- The candidates that are names, each once. -/
def usable (candidates : List String) : List String := Text.distinct (candidates.filter (· ≠ ""))

/-- Hands out the first candidate that is free. -/
def resolve (names : ArgNames) (candidates : List String) : Except ArgNameError (String × ArgNames) :=
  match (usable candidates).find? (!names.reserved.contains ·) with
  | some name => .ok (name, ⟨names.reserved ++ [name]⟩)
  | none => .error ⟨usable candidates, names.reserved⟩

/-- A call on names that stay in use, also after a failure: its answer, and the names after it. -/
def attempt (names : ArgNames) (candidates : List String) : Except ArgNameError String × ArgNames :=
  match names.resolve candidates with
  | .ok (name, after) => (.ok name, after)
  | .error error => (.error error, names)

/-- Calls one after the other: the answer of each, and the names after it. -/
def attemptAll (names : ArgNames) :
    List (List String) → List (Except ArgNameError String × ArgNames)
  | [] => []
  | candidates :: calls =>
    let (answer, after) := names.attempt candidates
    (answer, after) :: after.attemptAll calls

def forQuery : List String := ["query", "queryParams", "queryArg"]

def forBody : List String := ["data", "body", "reqBody"]

def forPathParams : List String := ["path", "pathParams"]

def forHeaders : List String := ["headers", "headersParams"]

end ArgNames

end ApiRoutes
