import ApiRoutes.Route.Basic

/-!
# Types of bodies

A request body or response has the type of its first content schema. A schema that is known by name,
or that has the content of one that is, is replaced by a reference to it. A body that is a reference
has the type of what it points at, and a body without anything usable has a default type.
-/

namespace ApiRoutes

/-- A request body or a response, as it is declared. -/
inductive BodyNode where
  | request (body : OrRef RequestBody)
  | response (response : OrRef Response)
  deriving Inhabited

structure ResolvedBody where
  type : String
  /-- The inline content schema or a reference to the named schema it equals, if the body is no
  reference. -/
  schema : Option (OrRef Schema)
  nullable : Bool
  deriving Inhabited

/-- The name of a referenced component without the first occurrence of the operation's id, unless
nothing would be left. -/
def stripOperationId (name : String) (operationId : Option String) : String :=
  match operationId with
  | none => name
  | some id =>
    if id = "" then name
    else
      match Text.cut? id.toList name.toList with
      | none => name
      | some (before, after) =>
        if (before ++ after).isEmpty then name else String.ofList (before ++ after)

namespace ResolvedBody

def named (type : String) : ResolvedBody := ⟨type, none, false⟩

/-- The type of a body without anything usable. -/
def fallback (default : Option String) : ResolvedBody := named (default.getD unknownType)

def ofContent (r : Resolver) (known : List NamedSchema) (default : Option String)
    (content : Entries MediaType) : ResolvedBody :=
  match firstSchema? content with
  | none => fallback default
  | some schema =>
    let type := r.typeExpr schema
    match Registry.findReusable known type with
    | some found => ⟨found.typeName, some (.ref found.path), schema.permitsNull⟩
    | none => ⟨type, some schema, schema.permitsNull⟩

def contentNotes (r : Resolver) (known : List NamedSchema) (content : Entries MediaType) :
    List Note :=
  match firstSchema? content with
  | none => []
  | some schema =>
    match Registry.findReusable known (r.typeExpr schema) with
    | some found => [.debug ("reusing " ++ found.typeName ++ " for " ++ r.typeExpr schema)]
    | none => []

/-- The named schema that a referenced component goes by, its name taken without the operation's id. -/
def knownName? (r : Resolver) (known : List NamedSchema) (operationId : Option String)
    (resolved : Resolved) : Option String :=
  let name := r.typeName (stripOperationId resolved.name operationId)
  if known.any (·.typeName = name) then some name else none

/-- The type of what a reference points at. Content belongs to the other component, so it is not the
body's own schema. -/
def ofResolved (r : Resolver) (known : List NamedSchema) (default : Option String)
    (resolved : Resolved) : ResolvedBody :=
  let ofSchema? : Option (OrRef Schema) → ResolvedBody
    | some schema => named (r.typeExpr schema)
    | none => fallback default
  match resolved.category, resolved.target with
  | .schemas, _ => named resolved.typeName
  | .other _, .schema schema => ofSchema? (some schema)
  | .other _, .parameter param => ofSchema? param.schema
  | .other _, .header header => ofSchema? header.schema
  | .other _, _ => fallback default
  | _, .response response => { ofContent r known default response.content with schema := none }
  | _, .requestBody body => { ofContent r known default body.content with schema := none }
  | _, _ => fallback default

def ofReference (r : Resolver) (known : List NamedSchema) (operationId default : Option String)
    (path : String) : ResolvedBody :=
  match r.resolve? path with
  | none => fallback default
  | some resolved =>
    match knownName? r known operationId resolved with
    | some name => named name
    | none => ofResolved r known default resolved

def referenceNotes (r : Resolver) (known : List NamedSchema) (operationId : Option String)
    (path : String) : List Note :=
  r.notes path ++
    match r.resolve? path with
    | none => []
    | some resolved =>
      match knownName? r known operationId resolved, resolved.category, resolved.target with
      | some _, _, _ => []
      | none, .schemas, _ => []
      | none, .other _, _ => []
      | none, _, .response response => contentNotes r known response.content
      | none, _, .requestBody body => contentNotes r known body.content
      | none, _, _ => []

def ofNode (r : Resolver) (known : List NamedSchema) (operationId default : Option String) :
    BodyNode → ResolvedBody
  | .request (.inline body) => ofContent r known default body.content
  | .response (.inline response) => ofContent r known default response.content
  | .request (.ref path) => ofReference r known operationId default path
  | .response (.ref path) => ofReference r known operationId default path

def notes (r : Resolver) (known : List NamedSchema) (operationId : Option String) :
    BodyNode → List Note
  | .request (.inline body) => contentNotes r known body.content
  | .response (.inline response) => contentNotes r known response.content
  | .request (.ref path) => referenceNotes r known operationId path
  | .response (.ref path) => referenceNotes r known operationId path

end ResolvedBody

end ApiRoutes
