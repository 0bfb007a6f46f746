import ApiRoutes.Data.Source
import ApiRoutes.Yaml.Scalar

/-!
# Reading a YAML document

A node of a document is read with what its aliases stand for. An alias may be followed any number of
times, so a short text can stand for a very large value; how often aliases are followed is counted
and limited, and so is the number of collections inside each other, which ends the reading of a node
that contains itself. A node that is not read costs nothing.
-/

namespace ApiRoutes

open Yaml (Node Document Properties Style Tag)

/-- A node of a document, and how many collections may still lie inside each other at it. -/
structure YamlNode where
  document : Yaml.Document
  depth : Nat
  value : Node

/-- Reading may fail; the state counts the aliases that have been followed. -/
abbrev YamlReader := StateT Nat Option

namespace YamlReader

def refuse {α : Type} : YamlReader α := fun _ => none

/-- A value that may have failed already. -/
def ofOption {α : Type} : Option α → YamlReader α
  | some a => pure a
  | none => refuse

end YamlReader

namespace Yaml

/-- The node that an alias stands for, or the node itself. -/
def Document.follow (doc : Document) : Node → YamlReader Node
  | .aliasOf n => fun followed =>
    if followed + 1 > doc.aliasLimit then none
    else (doc.anchored.lookup n).map (·, followed + 1)
  | node => pure node

def keyOf : Content → Key
  | .text s => .name s
  | .number (.int n) => if n < 0 then .other else .index n.toNat
  | _ => .other

/-- Typed data below a node, with at most `depth` collections inside each other. -/
def Document.content (doc : Document) : (depth : Nat) → Node → YamlReader Content
  | 0, node => do
    match ← doc.follow node with
    | .scalar p style text => YamlReader.ofOption (scalarContent? p.tag style text)
    | _ => YamlReader.refuse
  | depth + 1, node => do
    match ← doc.follow node with
    | .scalar p style text => YamlReader.ofOption (scalarContent? p.tag style text)
    | .list p items =>
      if p.tag.any Tag.isLocal then YamlReader.refuse
      else return .list (← items.mapM (doc.content depth))
    | .table p entries =>
      if p.tag.any Tag.isLocal then YamlReader.refuse
      else return .record (← entries.mapM fun (key, value) => do
        let key := keyOf (← doc.content depth key)
        return (key, ← doc.content depth value))
    | .aliasOf _ => YamlReader.refuse

/-- How many collections may lie inside each other. -/
def depthLimit : Nat := 128

/-- A scalar that is not written, in place of a collection. -/
def isBlankScalar (style : Style) (text : String) : Bool := style = .plain && text.isEmpty

end Yaml

open Yaml

namespace YamlNode

def root (doc : Yaml.Document) : YamlNode := ⟨doc, Yaml.depthLimit, doc.root⟩

/-- The node that an alias stands for, or the node itself. -/
def follow (node : YamlNode) : YamlReader YamlNode := do
  return { node with value := ← node.document.follow node.value }

/-- A node inside a collection that is the node itself. -/
def inside (node : YamlNode) (value : Node) : YamlNode :=
  { node with depth := node.depth - 1, value }

/-- The text of a scalar, however it is written. -/
def text (node : YamlNode) : YamlReader String := do
  match ← node.document.follow node.value with
  | .scalar _ _ text => return text
  | _ => YamlReader.refuse

/-- The node, or nothing where its spelling stands for no value. -/
def optional (node : YamlNode) : YamlReader (Option YamlNode) := do
  let node ← node.follow
  match node.value with
  | .scalar p style text =>
    if style ≠ .plain then return some node
    else
      match p.tag with
      | none => return if text.isEmpty || isNullWord text then none else some node
      | some tag =>
        if !tag.isStandard "null" then return some node
        else if isNullWord text then return none
        else YamlReader.refuse
  | _ => return some node

def flag (node : YamlNode) : YamlReader Bool := do
  match ← node.document.follow node.value with
  | .scalar p style text =>
    YamlReader.ofOption (if spellsValue "bool" p.tag style then boolWord? text else none)
  | _ => YamlReader.refuse

def natural (node : YamlNode) : YamlReader Nat := do
  match ← node.document.follow node.value with
  | .scalar p style text =>
    let n? := if spellsValue "int" p.tag style then natural? text.toList else none
    YamlReader.ofOption (n?.filter (· ≤ Decimal.wordMax))
  | _ => YamlReader.refuse

/-- A word: a scalar, or a local tag at a node that holds nothing. -/
def word (node : YamlNode) : YamlReader String := do
  match ← node.document.follow node.value with
  | .scalar p style text =>
    match p.tag.bind Tag.localName? with
    | none => return text
    | some name =>
      if style = .plain && (text.isEmpty || isNullWord text) then return name
      else YamlReader.refuse
  | _ => YamlReader.refuse

def items (node : YamlNode) : YamlReader (List YamlNode) := do
  let node ← node.follow
  match node.value with
  | .list _ items =>
    if node.depth = 0 then YamlReader.refuse else return items.map node.inside
  | .scalar _ style text => if isBlankScalar style text then return [] else YamlReader.refuse
  | _ => YamlReader.refuse

def entries (node : YamlNode) : YamlReader (List (String × YamlNode)) := do
  let node ← node.follow
  match node.value with
  | .table _ entries =>
    if node.depth = 0 then YamlReader.refuse
    else entries.mapM fun (key, value) => return (← (node.inside key).text, node.inside value)
  | .scalar _ style text => if isBlankScalar style text then return [] else YamlReader.refuse
  | _ => YamlReader.refuse

instance : Source YamlNode YamlReader where
  refuse := YamlReader.refuse
  optional := optional
  text := text
  flag := flag
  natural := natural
  word := word
  items := items
  entries := entries
  fields fields node := do
    let entries ← node.entries
    YamlReader.ofOption (Slots.ofEntries? fields (entries.map fun (key, value) => (.name key, value)))
  content node := node.document.content node.depth node.value

end YamlNode

end ApiRoutes
