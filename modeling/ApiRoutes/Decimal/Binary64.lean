import ApiRoutes.Decimal.Power

/-!
# Binary floating-point numbers

A 64-bit floating-point number is kept as its bits and worked with in exact natural arithmetic: a
finite magnitude is `m * 2 ^ q`, and every result is the exact one rounded to the nearest
representable number, a tie going to the even neighbour (`Binary64.ofRatio`).
-/

namespace ApiRoutes.Decimal

/-- A floating-point number of 64 bits: a sign, eleven bits of exponent and 52 of fraction. -/
structure Binary64 where
  bits : UInt64
  deriving DecidableEq, Repr, Inhabited

/-- The finite magnitude `m * 2 ^ q`. -/
structure Magnitude where
  m : Nat
  q : Int
  deriving DecidableEq, Repr

namespace Binary64

/-- The largest exponent field; it marks infinities and not-a-numbers. -/
def exponentLimit : Nat := 0x7FF

def isNegative (x : Binary64) : Bool := x.bits >>> 63 == 1

def exponentField (x : Binary64) : Nat := ((x.bits >>> 52) &&& 0x7FF).toNat

def fractionField (x : Binary64) : Nat := (x.bits &&& 0xFFFFFFFFFFFFF).toNat

/-- Neither infinite nor not-a-number. -/
def isFinite (x : Binary64) : Bool := x.exponentField < exponentLimit

def isNaN (x : Binary64) : Bool := x.exponentField == exponentLimit && x.fractionField != 0

def magnitude (x : Binary64) : Magnitude :=
  if x.exponentField = 0 then ⟨x.fractionField, -1074⟩
  else ⟨pow2 52 + x.fractionField, (x.exponentField : Int) - 1075⟩

/-- Whether the gap to the next smaller magnitude is half the gap to the next larger one. -/
def narrowBelow (x : Binary64) : Bool := x.fractionField = 0 && x.exponentField > 1

/-- The number with a sign put before its magnitude. -/
def withSign (negative : Bool) (magnitudeBits : Nat) : Binary64 :=
  ⟨UInt64.ofNat (if negative then pow2 63 + magnitudeBits else magnitudeBits)⟩

def infinity (negative : Bool) : Binary64 := withSign negative (exponentLimit * pow2 52)

def nan : Binary64 := ⟨0x7FF8000000000000⟩

/-- The quotient `num / (den * 2 ^ e)` rounded to the nearest natural number, a tie to the even
one. -/
def roundScaled (num den : Nat) (e : Int) : Nat :=
  let top := num * pow2 (-e).toNat
  let bottom := den * pow2 e.toNat
  let quotient := top / bottom
  let rest := top % bottom
  if 2 * rest > bottom || (2 * rest = bottom && quotient % 2 = 1) then quotient + 1 else quotient

/-- The exponent `q` for which `num / den` has 53 binary digits before the point of
`num / (den * 2 ^ q)`, or the least exponent there is. -/
def scaleOf (num den : Nat) : Int :=
  let guess : Int := (Nat.log2 num : Int) - (Nat.log2 den : Int) - 52
  let fits (e : Int) : Bool := den * pow2 (52 + e).toNat ≤ num * pow2 (-(52 + e)).toNat
  let e := if fits guess then guess else guess - 1
  max e (-1074)

/-- The representable number nearest to `num / den`, which is infinite beyond the largest one. -/
def ofRatio (negative : Bool) (num den : Nat) : Binary64 :=
  if num = 0 then withSign negative 0
  else
    let e := scaleOf num den
    let digits := roundScaled num den e
    let bits := if digits < pow2 52 then digits else (e + 1074).toNat * pow2 52 + digits
    if bits ≥ exponentLimit * pow2 52 then infinity negative else withSign negative bits

/-- The magnitude of a finite number as a fraction. -/
def ratio (x : Binary64) : Nat × Nat :=
  let v := x.magnitude
  (v.m * pow2 v.q.toNat, pow2 (-v.q).toNat)

def isZero (x : Binary64) : Bool := x.exponentField = 0 && x.fractionField = 0

/-- The rounded product of two finite magnitudes. -/
def mulMagnitude (x y : Binary64) : Binary64 :=
  let (a, b) := x.ratio
  let (c, d) := y.ratio
  ofRatio false (a * c) (b * d)

/-- The rounded quotient of two finite magnitudes, the second of them not zero. -/
def divMagnitude (x y : Binary64) : Binary64 :=
  let (a, b) := x.ratio
  let (c, d) := y.ratio
  ofRatio false (a * d) (b * c)

/-- The number with the other sign. -/
def neg (x : Binary64) : Binary64 := ⟨x.bits ^^^ 0x8000000000000000⟩

end Binary64

end ApiRoutes.Decimal
