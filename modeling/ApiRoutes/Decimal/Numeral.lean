import ApiRoutes.Decimal.Binary64

/-!
# Numerals

A decimal numeral as it is written: a sign, digits, perhaps a fraction and an exponent. Its value is
read in one of two ways. `Numeral.exact?` rounds the exact value once. `Numeral.scaled?` collects the
leading digits in a 64-bit word, reads the digits that no longer fit as zeros, and multiplies or
divides by a power of ten, rounding after each step.
-/

namespace ApiRoutes.Decimal

/-- A numeral's parts, digits as numbers below ten. -/
structure Numeral where
  negative : Bool
  whole : List Nat
  fraction : List Nat
  /-- Whether there is an exponent, then its sign and digits. -/
  exponent : Option (Bool × List Nat)
  hasPoint : Bool
  deriving DecidableEq, Repr

/-- A number of a document: an integer, or else a floating-point number. -/
inductive Number where
  | int (n : Int)
  | float (x : Binary64)
  deriving DecidableEq, Repr

def ofDigits (digits : List Nat) : Nat := digits.foldl (fun n d => n * 10 + d) 0

def Numeral.isWhole (n : Numeral) : Bool := !n.hasPoint && n.exponent.isNone

/-- The written exponent, cut off far beyond every exponent that matters. -/
def Numeral.power (n : Numeral) : Int :=
  match n.exponent with
  | none => 0
  | some (negative, digits) =>
    let significant := digits.dropWhile (· = 0)
    let size : Int := if significant.length > 18 then (pow10 18 : Int) else (ofDigits significant : Int)
    if negative then -size else size

/-- The representable number nearest to `digits * 10 ^ e`, with shortcuts far outside the range. -/
def nearest (negative : Bool) (digits : Nat) (length : Nat) (e : Int) : Binary64 :=
  if digits = 0 || e + length < -400 then Binary64.withSign negative 0
  else if e + length > 400 + length * 2 then Binary64.infinity negative
  else if e ≥ 0 then Binary64.ofRatio negative (digits * pow10 e.toNat) 1
  else Binary64.ofRatio negative digits (pow10 (-e).toNat)

/-- The value of a numeral, rounded once. -/
def Numeral.exact (n : Numeral) : Binary64 :=
  let digits := (n.whole ++ n.fraction).dropWhile (· = 0)
  nearest n.negative (ofDigits digits) digits.length (n.power - n.fraction.length)

def wordMax : Nat := pow2 64 - 1

/-- The largest number of a signed 32-bit word. -/
def exponentMax : Int := (pow2 31 : Int) - 1

/-- Collects digits in a word until the next one does not fit; what is left follows. -/
def collect (word : Nat) : List Nat → Nat × List Nat
  | [] => (word, [])
  | d :: ds => if word * 10 + d ≤ wordMax then collect (word * 10 + d) ds else (word, d :: ds)

/-- `x * 10 ^ e` by one rounded multiplication or by rounded divisions of at most `10 ^ 308` each.
There is no value beyond the largest number. -/
def scaleByPower (x : Binary64) (e : Int) : Option Binary64 :=
  if e > 308 then (if x.isZero then some x else none)
  else if e ≥ 0 then
    let y := x.mulMagnitude (Binary64.ofRatio false (pow10 e.toNat) 1)
    if y.isFinite then some y else none
  else if e ≥ -308 then some (x.divMagnitude (Binary64.ofRatio false (pow10 (-e).toNat) 1))
  else if x.isZero then some x
  else scaleByPower (x.divMagnitude (Binary64.ofRatio false (pow10 308) 1)) (e + 308)
termination_by (-e).toNat
decreasing_by omega

/-- An exponent kept within a signed 32-bit word. -/
def clampExponent (e : Int) : Int := max (-(pow2 31 : Int)) (min exponentMax e)

/-- The floating-point value of a numeral, from its leading digits. A numeral beyond the largest
number has none. -/
def Numeral.scaled? (n : Numeral) : Option Binary64 :=
  let (leading, lost) := collect 0 n.whole
  let (word, _, fractionRead) :=
    let (word, rest) := collect leading n.fraction
    (word, rest, n.fraction.length - rest.length)
  let start : Int := (lost.length : Int) - (fractionRead : Int)
  let negate (x : Binary64) : Binary64 := if n.negative then x.neg else x
  match n.exponent with
  | none => (scaleByPower (Binary64.ofRatio false word 1) start).map negate
  | some (_, digits) =>
    if (ofDigits digits : Int) > exponentMax then
      if word ≠ 0 && n.power > 0 then none else some (negate (Binary64.withSign false 0))
    else (scaleByPower (Binary64.ofRatio false word 1) (clampExponent (start + n.power))).map negate

/-- The number that a numeral stands for: an integer if it is written as one and fits a 64-bit word,
else a floating-point number. Minus zero is a floating-point number. -/
def Numeral.number? (n : Numeral) : Option Number :=
  let size := ofDigits n.whole
  if n.isWhole && !n.negative && size ≤ wordMax then some (.int size)
  else if n.isWhole && n.negative && size ≠ 0 && size ≤ pow2 63 then some (.int (-size))
  else n.scaled?.map .float

end ApiRoutes.Decimal
