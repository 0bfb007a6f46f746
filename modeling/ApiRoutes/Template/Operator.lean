import ApiRoutes.Template.Value

/-!
# Operators of templates

The operators that compute a value from values: arithmetic, putting texts and lists together,
repeating them and taking a part of them. Where an operator has no result for its operands, the
operation is invalid.
-/

namespace ApiRoutes.Template

/-- The binary operators that compute a value from two values. -/
inductive Operator where
  | add
  | sub
  | mul
  | div
  | floorDiv
  | rem
  | pow
  | concat
  deriving DecidableEq, Repr

namespace Value

def required (result : Option Value) : Except Error Value :=
  match result with
  | some value => .ok value
  | Option.none => .error .invalidOperation

/-- An operation on the numbers that two values stand for. -/
def arithmetic? (operation : Number → Number → Option Number) (a b : Value) : Option Value := do
  return number (← operation (← a.number?) (← b.number?))

/-- The sum of two numbers, or two texts or lists one after the other. -/
def add? (a b : Value) : Option Value :=
  match a.items?, b.items?, a, b with
  | some a, some b, _, _ => some (series (a ++ b))
  | _, _, text a, text b => some (text (a ++ b))
  | _, _, a, b => arithmetic? Number.add? a b

/-- Several items as many times as a value counts; nothing stays nothing. -/
def repeated? {α : Type} (items : List α) (count : Value) : Option (List α) := do
  let n ← (← count.number?).count?
  return if items.isEmpty then [] else (List.replicate n items).flatten

/-- The product of two numbers, or a text or list several times. -/
def mul? (a b : Value) : Option Value :=
  match a, b with
  | text s, n => (repeated? s.toList n).map (text ∘ String.ofList)
  | n, text s => (repeated? s.toList n).map (text ∘ String.ofList)
  | a, b =>
    match a.items?, b.items? with
    | some items, _ => (repeated? items b).map series
    | Option.none, some items => (repeated? items a).map series
    | Option.none, Option.none => arithmetic? Number.mul? a b

def apply (op : Operator) (a b : Value) : Except Error Value :=
  required <|
    match op with
    | .add => add? a b
    | .sub => arithmetic? Number.sub? a b
    | .mul => mul? a b
    | .div => arithmetic? (fun a b => some (a.div b)) a b
    | .floorDiv => arithmetic? Number.floorDiv? a b
    | .rem => arithmetic? Number.rem? a b
    | .pow => arithmetic? Number.pow? a b
    | .concat => some (text (a.display ++ b.display))

def negate : Value → Except Error Value
  | number n => required (n.neg?.map number)
  | _ => .error .invalidOperation

/-! ## Parts -/

/-- Every `step`th item, after the first `skip` ones. -/
def everyNth {α : Type} (step : Nat) : (skip : Nat) → List α → List α
  | _, [] => []
  | 0, x :: xs => x :: everyNth step (step - 1) xs
  | skip + 1, _ :: xs => everyNth step skip xs

/-- The position that a bound stands for, counted from the end where it is negative; one before the
start is the start. -/
def boundary (length : Nat) (i : Int) : Nat := if i < 0 then length - i.natAbs else i.toNat

/-- The items from one position up to another, every `step`th of them. -/
def forwardPart {α : Type} (items : List α) (start stop : Option Int) (step : Nat) : List α :=
  let first := boundary items.length (start.getD 0)
  let last := (stop.map (boundary items.length)).getD items.length
  everyNth step 0 ((items.take last).drop first)

/-- The items from one position back to another, every `step`th of them. The item at the stop is left
out, except that the first item of all is always within reach. -/
def backwardPart {α : Type} (items : List α) (start stop : Option Int) (step : Nat) : List α :=
  let first := min ((start.map (boundary items.length)).getD items.length) (items.length - 1)
  let last := (stop.map (boundary items.length)).getD 0
  everyNth step 0 ((items.take (first + 1)).drop (if last = 0 then 0 else last + 1)).reverse

/-- The part of several items that a slice takes. -/
def part {α : Type} (items : List α) (start stop : Option Int) (step : Int) : List α :=
  if step < 0 then backwardPart items start stop step.natAbs
  else forwardPart items start stop step.toNat

/-- A part of a text or list. -/
def slice (value start stop step : Value) : Except Error Value :=
  let bound : Value → Except Error (Option Int)
    | none => .ok Option.none
    | bound =>
      match bound.number?.bind Number.position? with
      | some n => .ok (some n)
      | Option.none => .error .invalidOperation
  do
    let start ← bound start
    let stop ← bound stop
    let step := (← bound step).getD 1
    if step = 0 then throw .invalidOperation
    match value with
    | undefined => return list []
    | none => return list []
    | text s => return text (String.ofList (part s.toList start stop step))
    | value => required (value.items?.map fun items => series (part items start stop step))

end Value

end ApiRoutes.Template
