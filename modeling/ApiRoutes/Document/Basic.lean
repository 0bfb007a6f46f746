import ApiRoutes.Document.Operation

/-!
# Documents

A document as it is read: paths, components and, for older documents, the sections that the upgrade
moves to the components.
-/

namespace ApiRoutes

/-- The reusable parts of a document, by section. -/
structure Components where
  schemas : Entries (OrRef Schema) := []
  responses : Entries (OrRef Response) := []
  parameters : Entries (OrRef Parameter) := []
  requestBodies : Entries (OrRef RequestBody) := []
  headers : Entries (OrRef Header) := []
  deriving Inhabited

namespace Components

/-- The schema at the end of a reference's chain. -/
def schemaAt (components : Components) (path : String) : Except ReferenceError Schema :=
  follow "schemas" components.schemas path

def parameterAt (components : Components) (path : String) : Except ReferenceError Parameter :=
  follow "parameters" components.parameters path

def requestBodyAt (components : Components) (path : String) : Except ReferenceError RequestBody :=
  follow "requestBodies" components.requestBodies path

def responseAt (components : Components) (path : String) : Except ReferenceError Response :=
  follow "responses" components.responses path

def headerAt (components : Components) (path : String) : Except ReferenceError Header :=
  follow "headers" components.headers path

end Components

/-- What a document says about itself. -/
structure Info where
  title : String
  description : Option String := none
  version : String
  deriving DecidableEq, Repr, Inhabited

structure Document where
  /-- The version of the format, empty in older documents until they are upgraded. -/
  openapi : String := ""
  /-- The version of the older format. -/
  swagger : Option String := none
  info : Info
  paths : Entries PathItem := []
  components : Option Components := none
  security : Option (List SecurityRequirement) := none
  /-- Sections of older documents, moved to the components by the upgrade. -/
  definitions : Entries (OrRef Schema) := []
  parameters : Entries (OrRef Parameter) := []
  responses : Entries (OrRef Response) := []
  consumes : List String := []
  produces : List String := []
  deriving Inhabited

namespace Document

/-- Whether the document asks for authentication everywhere. -/
def hasGlobalSecurity (doc : Document) : Bool :=
  match doc.security with
  | some (_ :: _) => true
  | _ => false

/-- The components, none if the document has no section for them. -/
def parts (doc : Document) : Components := doc.components.getD {}

/-- An operation with the path it belongs to. -/
structure Entry where
  path : String
  /-- Parameters that all operations of the path share. -/
  shared : List (OrRef Parameter)
  method : Method
  operation : Operation
  deriving Inhabited

def operations (doc : Document) : List Entry :=
  doc.paths.flatMap fun (path, item) =>
    item.operations.map fun (method, operation) => ⟨path, item.parameters, method, operation⟩

end Document

end ApiRoutes
