import ApiRoutes.Naming.Casings

/-!
# Names from paths

A route without a name of its own is named after its method and the literal segments of its path:
`GET /users` is `listUsers`, `GET /users/{userId}` is `getUser`. A path that ends in a parameter
addresses a single item, so its last literal segment is put into the singular.

A path also names the module of its routes (`namespaceOf`).
-/

namespace ApiRoutes

/-- The path without what follows its first query expansion. -/
def pathBeforeQuery (path : String) : List Char := Text.before ['\x7b', '?'] path.toList

def pathSegments (path : String) : List (List Char) :=
  Text.wordsBy (· = '/') (pathBeforeQuery path)

def isParameterSegment (segment : List Char) : Bool :=
  (segment.head? = some '\x7b' && segment.getLast? = some '\x7d') || segment.head? = some ':'

/-- The verb of a method; reading is `get` for a single item and `list` otherwise. -/
def methodVerb? (method : String) (single : Bool) : Option String :=
  match method.toUpper with
  | "GET" => some (if single then "get" else "list")
  | "POST" => some "create"
  | "PUT" => some "update"
  | "DELETE" => some "delete"
  | "PATCH" => some "patch"
  | "OPTIONS" => some "options"
  | "HEAD" => some "head"
  | "TRACE" => some "trace"
  | _ => none

/-- The singular of an English plural, as far as its ending tells. -/
def singular (word : List Char) : List Char :=
  let ending := word.reverse
  match ending with
  | 's' :: 'e' :: 'i' :: c :: stem => ('y' :: c :: stem).reverse
  | 's' :: 'e' :: 's' :: stem => ('s' :: stem).reverse
  | 's' :: 'e' :: 'x' :: stem => ('x' :: stem).reverse
  | 's' :: 'e' :: 'z' :: stem => ('z' :: stem).reverse
  | 's' :: 's' :: _ => word
  | 's' :: c :: stem => (c :: stem).reverse
  | _ => word

/-- The last of several words in the singular. -/
def singularLast : List (List Char) → List (List Char)
  | [] => []
  | [word] => [singular word]
  | word :: next :: rest => word :: singularLast (next :: rest)

/-- The name of a route without a name of its own. -/
def pathName (method path : String) : String :=
  let segments := pathSegments path
  let single := (segments.getLast?.map isParameterSegment).getD false
  match methodVerb? method single with
  | none => Text.lowerCamelCase method
  | some verb =>
    let literals := segments.filter (!isParameterSegment ·)
    let words := if single then singularLast literals else literals
    verb ++ String.join (words.map fun word =>
      Text.pascalCase (identifierWords (String.ofList word)))

structure ModuleOptions where
  /-- Whether a module is named after the first tag, if there is one. -/
  firstTag : Bool := false
  /-- Which segment of the path names the module otherwise. -/
  pathIndex : Nat := 0
  /-- Whether the routes of a module are in the order of their names. -/
  sortRoutes : Bool := false
  deriving DecidableEq, Repr, Inhabited

/-- The module of an operation, if its tags or its path name one. A name that would start with a digit
gets a letter before it. -/
def namespaceOf (options : ModuleOptions) (path : String) (tags : List String) : Option String :=
  let name? : Option String :=
    match tags, options.firstTag with
    | tag :: _, true => some (camelName tag)
    | _, _ => (pathSegments path)[options.pathIndex]?.map fun s => camelName (String.ofList s)
  match name? with
  | none => none
  | some name =>
    match name.toList with
    | [] => none
    | c :: _ => some (if c.isDigit then "v" ++ name else name)

end ApiRoutes
