import ApiRoutes.Data.Content

/-!
# Sources of data

The upper part of a document is read straight from the text's own tree, because there a scalar is
taken as the place wants it: a version may be written as a number. `Source ν m` lists what a tree
with nodes `ν` offers for that; `m` tells whether reading can fail or has to count. Below the places
where a value may have one of several forms, a node is first turned into `Content`.
-/

namespace ApiRoutes

/-- What a tree with nodes `ν` has to offer to be read as a document. -/
class Source (ν : Type) (m : outParam (Type → Type)) [Monad m] where
  /-- Refuses what was found. -/
  refuse : {α : Type} → m α
  /-- The node itself, or nothing where no value is given. -/
  optional : ν → m (Option ν)
  text : ν → m String
  flag : ν → m Bool
  natural : ν → m Nat
  /-- One of several words. -/
  word : ν → m String
  items : ν → m (List ν)
  /-- The entries of a table with texts as keys, as they are given. -/
  entries : ν → m (List (String × ν))
  /-- The fields of a model. -/
  fields : List Field → ν → m (Slots ν)
  /-- The tree below the node with typed scalars. -/
  content : ν → m Content

namespace Source

variable {ν : Type} {m : Type → Type} [Monad m] [Source ν m] {α : Type}

/-- A value that may have failed already. -/
def ofOption (ν : Type) {m : Type → Type} [Monad m] [Source ν m] {α : Type} : Option α → m α
  | some a => pure a
  | none => refuse ν

def typed (read : Content → Option α) (node : ν) : m α := do
  ofOption ν (read (← content node))

def required (slots : Slots ν) (name : String) (read : ν → m α) : m α :=
  match slots.find? name with
  | none => refuse ν
  | some value => read value

def nullable (read : ν → m α) (node : ν) : m (Option α) := do
  match ← optional node with
  | none => pure none
  | some value => some <$> read value

/-- A field that may be absent or null. -/
def optionalField (slots : Slots ν) (name : String) (read : ν → m α) : m (Option α) :=
  match slots.find? name with
  | none => pure none
  | some value => nullable read value

/-- A field that has a default where it is absent; null is no value for it. -/
def withDefault (slots : Slots ν) (name : String) (default : α) (read : ν → m α) : m α :=
  match slots.find? name with
  | none => pure default
  | some value => read value

def listOf (read : ν → m α) (node : ν) : m (List α) := do (← items node).mapM read

/-- A table; of several entries with one key the last counts. -/
def tableOf (read : ν → m α) (node : ν) : m (Entries α) := do
  let entries ← (← entries node).mapM fun (key, value) => do return (key, ← read value)
  return Entries.ofList entries

end Source

/-- Typed data is a source itself. A word may also be given as the only key of a record that holds
nothing under it. -/
instance : Source Content Option where
  refuse := none
  optional node := some (if node.isNull then none else some node)
  text := Content.text?
  flag := Content.flag?
  natural
    | .number (.int n) => if n < 0 then none else some n.toNat
    | _ => none
  word
    | .text s => some s
    | .record [(.name s, .null)] => some s
    | _ => none
  items := Content.items?
  entries := Content.entries?
  fields fields node :=
    match node with
    | .list items => Slots.ofList? fields items
    | .record entries => Slots.ofEntries? fields entries
    | _ => none
  content := some

end ApiRoutes
