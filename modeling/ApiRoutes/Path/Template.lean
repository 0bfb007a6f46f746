import ApiRoutes.Log
import ApiRoutes.Naming.Casings

/-!
# Path templates

A path names parameters by tokens, `{id}`, `:id` or `:id:`, and may list query parameters in
expansions `{?page,size}`. Its template is the route with every token written as `${name}` and the
expansions removed, together with the parameters they imply.

The path is first cut into `Piece`s. Each cut goes through the characters once; a match at a position
skips the characters it covers.
-/

namespace ApiRoutes

/-- Where an implied parameter belongs. -/
inductive ImpliedIn where
  | path
  | query
  deriving DecidableEq, Repr

/-- A parameter that the path itself implies. -/
structure PathParameter where
  /-- The text it was found as. -/
  token : String
  /-- Its name in lower camel casing. -/
  name : String
  place : ImpliedIn
  deriving DecidableEq, Repr

structure PathTemplate where
  source : String
  /-- The path with a placeholder for every token and without query expansions. -/
  route : String
  pathParams : List PathParameter
  queryParams : List PathParameter
  deriving DecidableEq, Repr

namespace PathTemplate

def isNameStart (c : Char) : Bool := c.isAlpha || c = '_'

def isNameRest (c : Char) : Bool := c.isAlphanum || c = '_' || c = '.' || c = '-'

/-- The longest parameter name at the start of a text, and what follows it. -/
def name? : List Char → Option (List Char × List Char)
  | [] => none
  | c :: cs =>
    if isNameStart c then some (c :: cs.takeWhile isNameRest, cs.dropWhile isNameRest) else none

/-- The token at the start of a text and the name in it. -/
def token? : List Char → Option (List Char × List Char)
  | '\x7b' :: cs =>
    match name? cs with
    | some (name, '\x7d' :: _) => some ('\x7b' :: name ++ ['\x7d'], name)
    | _ => none
  | ':' :: cs =>
    match name? cs with
    | some (name, ':' :: _) => some (':' :: name ++ [':'], name)
    | some (name, _) => some (':' :: name, name)
    | none => none
  | _ => none

/-- The query expansion at the start of a text and the list in it. -/
def expansion? : List Char → Option (List Char × List Char)
  | '\x7b' :: '?' :: cs =>
    match cs.dropWhile (· ≠ '\x7d') with
    | '\x7d' :: _ =>
      let list := cs.takeWhile (· ≠ '\x7d')
      some ('\x7b' :: '?' :: list ++ ['\x7d'], list)
    | _ => none
  | _ => none

/-- A part of a text: a character that belongs to no match, or a match with its inner text. -/
inductive Piece where
  | literal (c : Char)
  | found (written inner : List Char)
  deriving DecidableEq, Repr

/-- Cuts a text at the matches of `find?`, from left to right; the first `skip` characters belong to a
match before. -/
def cutAt (find? : List Char → Option (List Char × List Char)) : (skip : Nat) → List Char → List Piece
  | _, [] => []
  | skip + 1, _ :: cs => cutAt find? skip cs
  | 0, c :: cs =>
    match find? (c :: cs) with
    | some (written, inner) => .found written inner :: cutAt find? (written.length - 1) cs
    | none => .literal c :: cutAt find? 0 cs

/-- The tokens of a path between its other characters. -/
def tokenPieces (path : String) : List Piece := cutAt token? 0 path.toList

/-- A piece of a route: the placeholder of a token, or the character. -/
def placeholder : Piece → List Char
  | .literal c => [c]
  | .found _ name => '$' :: '\x7b' :: (camelName (String.ofList name)).toList ++ ['\x7d']

/-- The path with a placeholder for each token. -/
def withPlaceholders (path : String) : List Char := (tokenPieces path).flatMap placeholder

def pathParameter? : Piece → Option PathParameter
  | .literal _ => none
  | .found written name =>
    some ⟨String.ofList written, camelName (String.ofList name), .path⟩

/-- The names in a query expansion, without blanks and explode marks, empty ones left out. -/
def expansionNames (list : List Char) : List String :=
  (((Text.splitBy (· = ',') list).map fun item =>
    Text.dropEndWhile (· = '*') (Text.trim item)).filter (!·.isEmpty)).map String.ofList

def queryNames (path : List Char) : List String :=
  (cutAt expansion? 0 path).flatMap fun
    | .literal _ => []
    | .found _ list => expansionNames list

def queryParameters (names : List String) : List PathParameter :=
  names.foldl (fun found raw =>
    if found.any (·.name = camelName raw) then found
    else found ++ [⟨raw, camelName raw, .query⟩]) []

def withoutExpansions (path : List Char) : List Char :=
  (cutAt expansion? 0 path).flatMap fun
    | .literal c => [c]
    | .found _ _ => []

/-- The template of a path. A path without tokens and expansions is its own route. -/
def ofPath (path : String) : PathTemplate :=
  { source := path
    route := String.ofList (withoutExpansions (withPlaceholders path))
    pathParams := (tokenPieces path).filterMap pathParameter?
    queryParams := queryParameters (queryNames (withPlaceholders path)) }

def hyphenNote (place path raw : String) : List Note :=
  if raw.toList.contains '-' then
    [.warn (place ++ " parameter '" ++ raw ++ "' in " ++ path ++ " contains '-', using '" ++
      camelName raw ++ "'")]
  else []

/-- The notes on a path: a warning for each name whose casing drops a hyphen. -/
def notes (path : String) : List Note :=
  (tokenPieces path).flatMap (fun
    | .literal _ => []
    | .found _ name => hyphenNote "path" path (String.ofList name)) ++
  (queryNames (withPlaceholders path)).flatMap (hyphenNote "query" path)

end PathTemplate

end ApiRoutes
