import ApiRoutes.Template.Number
import ApiRoutes.Text.Listing

/-!
# Values of templates

What a template computes with: undefined and none, truth values, numbers, texts, lists, tables and
series. The module says how values are shown, compared and looked into. A table keeps its entries in
the order of their keys, one entry a key (`insertEntry`).
-/

namespace ApiRoutes.Template

/-- Why a template cannot be rendered. -/
inductive Error where
  | syntaxError
  | undefinedError
  | unknownFilter
  | unknownTest
  | unknownFunction
  | unknownMethod
  | invalidOperation
  | tooManyArguments
  | missingArgument
  | cannotUnpack
  | badEscape
  | templateNotFound
  deriving DecidableEq, Repr, Inhabited

inductive Value where
  | undefined
  | none
  | bool (b : Bool)
  | number (n : Number)
  | text (s : String)
  | list (items : List Value)
  | table (entries : List (Value × Value))
  /-- The items that an operator puts together out of lists. They are shown and gone through like
  those of a list. -/
  | series (items : List Value)
  deriving Inhabited

namespace Value

def ofNat (n : Nat) : Value := number (.natural n)

def items? : Value → Option (List Value)
  | list items => some items
  | series items => some items
  | _ => Option.none

/-- The number that a value stands for: truth values are zero and one. -/
def number? : Value → Option Number
  | bool b => some (.whole (if b then 1 else 0))
  | number n => some n
  | _ => Option.none

/-! ## Showing -/

mutual

/-- A value inside a list or table: texts are quoted. -/
def listed : Value → String
  | undefined => "undefined"
  | none => "None"
  | bool b => if b then "True" else "False"
  | number n => n.write Number.listedFloats
  | text s => Text.listed s
  | list items => "[" ++ Text.joinWith ", " (listedItems items) ++ "]"
  | table entries => "\x7b" ++ Text.joinWith ", " (listedEntries entries) ++ "\x7d"
  | series items => "[" ++ Text.joinWith ", " (listedItems items) ++ "]"

def listedItems : List Value → List String
  | [] => []
  | item :: items => item.listed :: listedItems items

def listedEntries : List (Value × Value) → List String
  | [] => []
  | (k, v) :: rest => (k.listed ++ ": " ++ v.listed) :: listedEntries rest

end

/-- A value as text; undefined shows as nothing. -/
def display : Value → String
  | undefined => ""
  | text s => s
  | number n => n.write Number.plainFloats
  | value => value.listed

def isTrue : Value → Bool
  | undefined => false
  | none => false
  | bool b => b
  | number n => n.isTrue
  | text s => !s.isEmpty
  | list items => !items.isEmpty
  | table entries => !entries.isEmpty
  | series items => !items.isEmpty

/-! ## Comparing -/

/-- The place of a value's kind among the kinds. -/
def rank : Value → Nat
  | undefined => 0
  | none => 1
  | bool _ => 2
  | number _ => 3
  | text _ => 4
  | list _ => 5
  | table _ => 6
  | series _ => 7

/-- Compares values that hold no others. -/
def orderPlain (a b : Value) : Ordering :=
  match a, b with
  | text a, text b => compare a b
  | a, b =>
    match a.number?, b.number? with
    | some a, some b => a.order b
    | _, _ => .eq

mutual

/-- Compares values: first their kinds, then numbers and texts, lists item by item and tables entry
by entry. -/
def order : Value → Value → Ordering
  | list a, list b => orderItems a b
  | series a, series b => orderItems a b
  | table a, table b => orderEntries a b
  | a, b => (compare a.rank b.rank).then (orderPlain a b)

/-- Compares lists item by item; a list that ends first comes first. -/
def orderItems : List Value → List Value → Ordering
  | [], [] => .eq
  | [], _ :: _ => .lt
  | _ :: _, [] => .gt
  | a :: as, b :: bs => (a.order b).then (orderItems as bs)

/-- Compares tables entry by entry, first by key and then by value. -/
def orderEntries : List (Value × Value) → List (Value × Value) → Ordering
  | [], [] => .eq
  | [], _ :: _ => .lt
  | _ :: _, [] => .gt
  | (k, v) :: as, (l, w) :: bs => ((k.order l).then (v.order w)).then (orderEntries as bs)

end

/-- Whether values that hold no others are equal; truth values and numbers are compared as
numbers. -/
def equalPlain : Value → Value → Bool
  | undefined, undefined => true
  | none, none => true
  | text a, text b => a == b
  | a, b =>
    match a.number?, b.number? with
    | some a, some b => a.equal b
    | _, _ => false

mutual

/-- Whether two values are equal. A list equals a series with equal items. -/
def equal : Value → Value → Bool
  | list a, list b => equalItems a b
  | list a, series b => equalItems a b
  | series a, list b => equalItems a b
  | series a, series b => equalItems a b
  | table a, table b => equalEntries a b
  | a, b => equalPlain a b

def equalItems : List Value → List Value → Bool
  | [], [] => true
  | a :: as, b :: bs => a.equal b && equalItems as bs
  | _, _ => false

/-- Whether two tables have the same keys with equal values. -/
def equalEntries : List (Value × Value) → List (Value × Value) → Bool
  | [], [] => true
  | (k, v) :: as, (l, w) :: bs => k.order l == .eq && v.equal w && equalEntries as bs
  | _, _ => false

end

/-! ## Tables -/

/-- Puts a value under a key into entries whose keys ascend. A key that is there stays and gets the
value. -/
def insertEntry (key value : Value) : List (Value × Value) → List (Value × Value)
  | [] => [(key, value)]
  | (k, v) :: rest =>
    match key.order k with
    | .lt => (key, value) :: (k, v) :: rest
    | .eq => (k, value) :: rest
    | .gt => (k, v) :: insertEntry key value rest

/-- The table of several entries, of which later ones replace earlier ones. -/
def ofEntries (entries : List (Value × Value)) : Value :=
  table (entries.foldl (fun table (k, v) => insertEntry k v table) [])

def lookup? (entries : List (Value × Value)) (key : Value) : Option Value :=
  (entries.find? fun (k, _) => key.order k == .eq).map Prod.snd

/-! ## Looking into values -/

/-- A position counted from the start, or from the end where it is negative. -/
def position? (length : Nat) (index : Int) : Option Nat :=
  if index ≥ 0 then some index.toNat
  else if index.natAbs ≤ length then some (length - index.natAbs) else Option.none

/-- What is found at a position or under a key. -/
def item? (value key : Value) : Option Value :=
  let found? {α : Type} (items : List α) : Option α := do
    items[← position? items.length (← (← key.number?).position?)]?
  match value with
  | table entries => lookup? entries key
  | list items => found? items
  | series items => found? items
  | text s => (found? s.toList).map fun c => text (String.singleton c)
  | _ => Option.none

/-- What is found in a value; nothing is found in an undefined one. -/
def get (value key : Value) : Except Error Value :=
  match value.item? key, value with
  | some found, _ => .ok found
  | Option.none, undefined => .error .undefinedError
  | Option.none, _ => .ok undefined

/-- The items that a container holds: those of a list, the keys of a table. -/
def contents? : Value → Option (List Value)
  | table entries => some (entries.map Prod.fst)
  | value => value.items?

/-- The items that a loop goes through. -/
def iterate : Value → Except Error (List Value)
  | undefined => .ok []
  | none => .ok []
  | text s => .ok (s.toList.map fun c => text (String.singleton c))
  | value =>
    match value.contents? with
    | some items => .ok items
    | Option.none => .error .invalidOperation

/-- Whether a container holds a value: a text a part of it, a table a key, a list an item. -/
def holds (container value : Value) : Except Error Bool :=
  match container with
  | undefined => .ok false
  | text s => .ok (Text.occurs value.display.toList s.toList)
  | table entries => .ok (lookup? entries value).isSome
  | container =>
    match container.items? with
    | some items => .ok (items.any (·.equal value))
    | Option.none => .error .invalidOperation

inductive Comparison where
  | eq
  | ne
  | lt
  | le
  | gt
  | ge
  | contained
  | notContained
  deriving DecidableEq, Repr

def compares (a : Value) (comparison : Comparison) (b : Value) : Except Error Bool :=
  match comparison with
  | .eq => .ok (a.equal b)
  | .ne => .ok (!a.equal b)
  | .lt => .ok (a.order b == .lt)
  | .le => .ok (a.order b != .gt)
  | .gt => .ok (a.order b == .gt)
  | .ge => .ok (a.order b != .lt)
  | .contained => holds b a
  | .notContained => (holds b a).map (!·)

end Value

end ApiRoutes.Template
