import ApiRoutes.Text.Basic

/-!
# Response statuses

A response is declared under a status: a numeric code, or a token such as `default` or `2XX`. Rules
say which statuses are a success.
-/

namespace ApiRoutes

inductive Status where
  | code (n : Nat)
  | token (text : String)
  deriving DecidableEq, Repr, Inhabited

namespace Status

def codeMax : Nat := 65535

/-- The number that decimal digits write, if they are all digits and there is one. -/
def digits? : List Char → Option Nat
  | [] => none
  | cs =>
    if cs.all Char.isDigit then some (cs.foldl (fun n c => n * 10 + (c.toNat - '0'.toNat)) 0)
    else none

/-- A code within range; a plus sign may stand before it. -/
def code? (cs : List Char) : Option Nat :=
  let digits := match cs with
    | '+' :: rest => rest
    | cs => cs
  (digits? digits).filter (· ≤ codeMax)

/-- The status that a key stands for: a code, blanks around it aside, or else a token. -/
def ofKey (key : String) : Status :=
  match code? (Text.trim key.toList) with
  | some n => .code n
  | none => .token key

def number? : Status → Option Nat
  | .code n => some n
  | .token _ => none

def display : Status → String
  | .code n => Nat.repr n
  | .token text => text

end Status

/-- How response statuses are classified and typed. -/
structure ResponseRules where
  /-- Whether the `default` response is a success. -/
  defaultAsSuccess : Bool := false
  /-- The least and the greatest successful code. -/
  successRange : Nat × Nat := (200, 299)
  /-- The type of a response without a usable schema. -/
  defaultType : Option String := none
  deriving DecidableEq, Repr, Inhabited

def ResponseRules.isSuccess (rules : ResponseRules) : Status → Bool
  | .code n => rules.successRange.1 ≤ n && n ≤ rules.successRange.2
  | .token text => (text = "default" && rules.defaultAsSuccess) || text.toLower = "2xx"

end ApiRoutes
