import ApiRoutes.Document.Read
import ApiRoutes.Document.Upgrade
import ApiRoutes.Json.Source
import ApiRoutes.Yaml.Source

/-!
# Loading documents

A document is loaded from a JSON or a YAML text and brought to its current form.
-/

namespace ApiRoutes

inductive LoadError where
  /-- The text is no JSON text of a document. -/
  | json
  /-- The text is no YAML text of a document. -/
  | yaml
  /-- The version is refused. -/
  | version (error : VersionError)
  deriving DecidableEq, Repr, Inhabited

/-- What a JSON text holds, read by `read`. -/
def readJson? {α : Type} (read : JsonNode → Option α) (text : String) : Option α :=
  (Json.parse? text).bind fun value => read (JsonNode.root value)

def readYaml? {α : Type} (read : YamlNode → YamlReader α) (text : String) : Option α :=
  (Yaml.Document.ofText? text).bind fun doc => ((read (YamlNode.root doc)).run 0).map Prod.fst

/-- A loaded document in its current form, with the notes on bringing it there. -/
def Document.finish (doc : Document) : Except LoadError (Document × List Note) :=
  match doc.current with
  | .ok current => .ok (current, doc.currentNotes)
  | .error e => .error (.version e)

def Document.ofJson (text : String) : Except LoadError (Document × List Note) :=
  match readJson? Document.read text with
  | some doc => doc.finish
  | none => .error .json

def Document.ofYaml (text : String) : Except LoadError (Document × List Note) :=
  match readYaml? Document.read text with
  | some doc => doc.finish
  | none => .error .yaml

end ApiRoutes
