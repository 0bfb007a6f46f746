import ApiRoutes.Data.Entries
import ApiRoutes.Decimal.Numeral

/-!
# Decoded data

`Content` is a tree of data whose scalars have their types: what a JSON text holds, or what a part of
a YAML document holds once its plain scalars are typed. Models are read from it and written to it.

A model with named fields is read from a record, or from a list that gives the fields in their order.
Both forms lead to the same `Slots`, the fields that are present; `Slots.required`, `Slots.optional`
and `Slots.withDefault` then read one field each.
-/

namespace ApiRoutes

open Decimal (Number Binary64)

/-- The key of a record's entry. A document may use numbers and other scalars as keys. -/
inductive Key where
  | name (text : String)
  | index (n : Nat)
  | other
  deriving DecidableEq, Repr, Inhabited

/-- A tree of typed data; records keep their entries in order, repeated keys included. -/
inductive Content where
  | null
  | bool (b : Bool)
  | number (n : Number)
  | text (s : String)
  | list (items : List Content)
  | record (entries : List (Key × Content))
  deriving Repr, Inhabited

/-- A field of a model: its name, and whether a list may end before it. -/
structure Field where
  name : String
  omittable : Bool
  deriving DecidableEq, Repr

/-- The fields that are present, by name. -/
abbrev Slots (ε : Type) := Entries ε

namespace Slots

variable {ε : Type}

/-- The fields of a record. Entries with an unknown key are skipped, a field that is given twice and a
key that is no field name are refused. -/
def ofEntries? (fields : List Field) : List (Key × ε) → Option (Slots ε)
  | [] => some []
  | (key, value) :: rest =>
    let field? : Option (Option Field) :=
      match key with
      | .name text => some (fields.find? (·.name = text))
      | .index n => some fields[n]?
      | .other => none
    match field?, ofEntries? fields rest with
    | some none, some slots => some slots
    | some (some field), some slots =>
      if slots.keys.contains field.name then none else some ((field.name, value) :: slots)
    | _, _ => none

/-- The fields of a list that gives them in order. Those at the end may be missing if they are
omittable; there must be none too many. -/
def ofList? : List Field → List ε → Option (Slots ε)
  | [], [] => some []
  | [], _ :: _ => none
  | field :: fields, [] => if field.omittable then ofList? fields [] else none
  | field :: fields, value :: values => (ofList? fields values).map ((field.name, value) :: ·)

end Slots

namespace Content

def text? : Content → Option String
  | text s => some s
  | _ => none

def flag? : Content → Option Bool
  | bool b => some b
  | _ => none

def items? : Content → Option (List Content)
  | list items => some items
  | _ => none

def isNull : Content → Bool
  | null => true
  | _ => false

def keyName? : Key → Option String
  | .name s => some s
  | _ => none

/-- The entries, if it is a record whose keys are all texts. -/
def entries? : Content → Option (List (String × Content))
  | record entries => entries.mapM fun (key, value) => (keyName? key).map (·, value)
  | _ => none

abbrev Below (c : Content) := { node : Content // sizeOf node < sizeOf c }

/-- The items of a list, each known to be smaller than the list. -/
def itemsBelow? : (c : Content) → Option (List c.Below)
  | list items => some (items.attach.map fun ⟨x, h⟩ =>
      ⟨x, by have := List.sizeOf_lt_of_mem h; simp only [list.sizeOf_spec]; omega⟩)
  | _ => none

/-- The entries of a record, each value known to be smaller than the record. -/
def recordBelow? : (c : Content) → Option (List (Key × c.Below))
  | record entries => some (entries.attach.map fun ⟨(k, x), h⟩ =>
      (k, ⟨x, by
        have := List.sizeOf_lt_of_mem h
        simp only [record.sizeOf_spec]; simp only [Prod.mk.sizeOf_spec] at this; omega⟩))
  | _ => none

/-- The entries of a record whose keys are all texts, each value known to be smaller. -/
def entriesBelow? (c : Content) : Option (List (String × c.Below)) := do
  (← c.recordBelow?).mapM fun (key, value) => (keyName? key).map (·, value)

/-- The fields of a model, read from a record or from a list in order. -/
def fields? (fields : List Field) (c : Content) : Option (Slots c.Below) :=
  match c.recordBelow? with
  | some entries => Slots.ofEntries? fields entries
  | none => c.itemsBelow?.bind (Slots.ofList? fields)

/-- The fields of a model that is read from a record only. -/
def recordFields? (fields : List Field) (c : Content) : Option (Slots c.Below) :=
  c.recordBelow?.bind (Slots.ofEntries? fields)

end Content

namespace Slots

variable {α : Type} {c : Content}

def required (slots : Slots c.Below) (name : String) (read : c.Below → Option α) : Option α :=
  (slots.find? name).bind read

/-- A field that may be absent or null. -/
def optional (slots : Slots c.Below) (name : String) (read : c.Below → Option α) :
    Option (Option α) :=
  match slots.find? name with
  | none => some none
  | some value => if value.val.isNull then some none else (read value).map some

/-- A field that has a default where it is absent; null is no value for it. -/
def withDefault (slots : Slots c.Below) (name : String) (default : α)
    (read : c.Below → Option α) : Option α :=
  match slots.find? name with
  | none => some default
  | some value => read value

end Slots

namespace Content

/-- Writes a key of a sorted table: before the first larger key, in place of an equal one. -/
def insertSorted {α : Type} (key : String) (value : α) : Entries α → Entries α
  | [] => [(key, value)]
  | (k, v) :: rest =>
    if key < k then (key, value) :: (k, v) :: rest
    else if key = k then (key, value) :: rest
    else (k, v) :: insertSorted key value rest

/-- A table in the order of its keys; of several entries with one key the last counts. -/
def sortEntries {α : Type} (entries : List (String × α)) : Entries α :=
  entries.foldl (fun table (k, v) => insertSorted k v table) []

mutual

/-- A table whose values are read by `read`; of several entries with one key the last counts. -/
def tableBelow? {α : Type} (c : Content) (read : c.Below → Option α) : Option (Entries α) := do
  let entries ← (← c.entriesBelow?).mapM fun (key, value) => (read value).map (key, ·)
  return Entries.ofList entries

def listBelow? {α : Type} (c : Content) (read : c.Below → Option α) : Option (List α) := do
  (← c.itemsBelow?).mapM read

def texts? (c : Content) : Option (List String) := c.items?.bind (·.mapM text?)

/-- A free-form value: records have their keys in order and no key twice, and a floating-point number
that is not finite is no value. A record with a key that is no text is refused. -/
def freeForm? : Content → Option Content
  | null => some null
  | bool b => some (bool b)
  | number (.int n) => some (number (.int n))
  | number (.float x) => some (if x.isFinite then number (.float x) else null)
  | text s => some (text s)
  | list items => (freeFormItems? items).map list
  | record entries =>
    (freeFormEntries? entries).map fun named =>
      record ((sortEntries named).map fun (k, v) => (.name k, v))

def freeFormItems? : List Content → Option (List Content)
  | [] => some []
  | item :: items =>
    match freeForm? item, freeFormItems? items with
    | some x, some xs => some (x :: xs)
    | _, _ => none

/-- The entries of a record as free-form values under their names. -/
def freeFormEntries? : List (Key × Content) → Option (List (String × Content))
  | [] => some []
  | (key, value) :: rest =>
    match keyName? key, freeForm? value, freeFormEntries? rest with
    | some k, some v, some vs => some ((k, v) :: vs)
    | _, _, _ => none

end

def int (n : Int) : Content := number (.int n)

def nat (n : Nat) : Content := int n

def texts (items : List String) : Content := list (items.map text)

def ofFields (entries : List (String × Content)) : Content :=
  record (entries.map fun (k, v) => (.name k, v))

def ofText? : Option String → Content
  | some s => text s
  | none => null

/-- The entry for a field that is left out where it has no value. -/
def optionalField {α : Type} (name : String) (write : α → Content) : Option α → List (String × Content)
  | some value => [(name, write value)]
  | none => []

/-- The entry for a list that is left out where it is empty. -/
def listField {α : Type} (name : String) (write : α → Content) : List α → List (String × Content)
  | [] => []
  | items => [(name, list (items.map write))]

/-- The entry for a table that is left out where it is empty. -/
def tableField {α : Type} (name : String) (write : α → Content) : Entries α → List (String × Content)
  | [] => []
  | entries => [(name, ofFields (entries.map fun (k, v) => (k, write v)))]

end Content

end ApiRoutes
