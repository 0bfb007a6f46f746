import ApiRoutes.Document.Parts
import ApiRoutes.Http.Method

/-!
# Operations and paths
-/

namespace ApiRoutes

/-- A security requirement: the scopes that are needed of each scheme. -/
abbrev SecurityRequirement := Entries (List String)

inductive MediaTypeList where
  | one (mediaType : String)
  | many (mediaTypes : List String)
  deriving DecidableEq, Repr, Inhabited

def MediaTypeList.toList : MediaTypeList → List String
  | one mediaType => [mediaType]
  | many mediaTypes => mediaTypes

structure Operation where
  operationId : Option String := none
  summary : Option String := none
  description : Option String := none
  tags : List String := []
  parameters : List (OrRef Parameter) := []
  requestBody : Option (OrRef RequestBody) := none
  responses : Entries (OrRef Response) := []
  deprecated : Option Bool := none
  security : Option (List SecurityRequirement) := none
  /-- The name that the body's argument should have. -/
  requestBodyName : Option String := none
  /-- Further media types of responses. -/
  accepts : Option MediaTypeList := none
  /-- Further media types of the request. -/
  contentType : Option MediaTypeList := none
  /-- The media types of the request, in older documents. -/
  consumes : Option (List String) := none
  /-- The media types of responses, in older documents. -/
  produces : Option (List String) := none
  deriving Inhabited

/-- A path's operations in the order in which the document gives them, and what they share. -/
structure PathItem where
  summary : Option String := none
  description : Option String := none
  parameters : List (OrRef Parameter) := []
  operations : List (Method × Operation) := []
  deriving Inhabited

def PathItem.operation? (item : PathItem) (method : Method) : Option Operation :=
  item.operations.lookup method

end ApiRoutes
