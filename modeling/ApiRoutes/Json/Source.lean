import ApiRoutes.Data.Source
import ApiRoutes.Json.Basic

/-!
# Reading a JSON text

A value that is read must have a meaning: its texts are whole, its numbers are in range and at most
127 containers lie inside each other. `Json.content?` turns a tree into typed data under these
conditions; `JsonNode` is a node of a tree together with the depth that is left below it.
-/

namespace ApiRoutes

namespace Json

/-- How many containers may lie inside each other. -/
def depthLimit : Nat := 127

mutual

/-- The typed data of a tree with at most `depth` containers inside each other. -/
def content? (depth : Nat) : Json → Option Content
  | null => some .null
  | bool b => some (.bool b)
  | number n => n.number?.map .number
  | text s => s.map .text
  | list items => if depth = 0 then none else (contents? (depth - 1) items).map .list
  | record entries => if depth = 0 then none else (entryContents? (depth - 1) entries).map .record

/-- The typed data of a list's items. -/
def contents? (depth : Nat) : List Json → Option (List Content)
  | [] => some []
  | item :: items =>
    match content? depth item, contents? depth items with
    | some x, some xs => some (x :: xs)
    | _, _ => none

/-- The typed data of a record's entries. -/
def entryContents? (depth : Nat) : List (Option String × Json) → Option (List (Key × Content))
  | [] => some []
  | (key, value) :: rest =>
    match key, content? depth value, entryContents? depth rest with
    | some k, some v, some vs => some ((.name k, v) :: vs)
    | _, _, _ => none

end

end Json

/-- A node of a JSON tree, and how many containers may still lie inside each other at it. -/
structure JsonNode where
  depth : Nat
  value : Json

namespace JsonNode

def root (value : Json) : JsonNode := ⟨Json.depthLimit, value⟩

def items? (node : JsonNode) : Option (List JsonNode) :=
  match node.depth, node.value with
  | depth + 1, .list items => some (items.map (⟨depth, ·⟩))
  | _, _ => none

def entries? (node : JsonNode) : Option (List (String × JsonNode)) :=
  match node.depth, node.value with
  | depth + 1, .record entries =>
    entries.mapM fun (key, value) => key.map (·, ⟨depth, value⟩)
  | _, _ => none

def text? (node : JsonNode) : Option String :=
  match node.value with
  | .text s => s
  | _ => none

/-- A word, or a record that gives the word with no value. -/
def word? (node : JsonNode) : Option String :=
  match node.value with
  | .record _ =>
    match node.entries? with
    | some [(word, ⟨_, .null⟩)] => some word
    | _ => none
  | _ => node.text?

/-- A natural number that is written without point and exponent. -/
def natural? (node : JsonNode) : Option Nat :=
  match node.value with
  | .number n =>
    match n.number? with
    | some (.int k) => if k < 0 then none else some k.toNat
    | _ => none
  | _ => none

instance : Source JsonNode Option where
  refuse := none
  optional node := some (match node.value with | .null => none | _ => some node)
  text := text?
  flag node := match node.value with | .bool b => some b | _ => none
  natural := natural?
  word := word?
  items := items?
  entries := entries?
  fields fields node :=
    match node.value with
    | .list _ => node.items?.bind (Slots.ofList? fields)
    | _ => do
      let entries ← node.entries?
      Slots.ofEntries? fields (entries.map fun (key, value) => (.name key, value))
  content node := node.value.content? node.depth

end JsonNode

end ApiRoutes
