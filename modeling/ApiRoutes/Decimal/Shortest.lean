import ApiRoutes.Decimal.Binary64

/-!
# Shortest decimals

The shortest decimal of a floating-point number is the one with the fewest digits among those that
round to it, and of several the nearest. `shortest` looks for it on one decimal grid after another,
the coarsest first; on each the candidates are the two neighbours of the number. Everything is
compared exactly.
-/

namespace ApiRoutes.Decimal

/-- The decimal `digits * 10 ^ exponent`. -/
structure Scientific where
  digits : Nat
  exponent : Int
  deriving DecidableEq, Repr

/-- Which of two equally near candidates is taken. -/
inductive Tie where
  | toEven
  | upward
  deriving DecidableEq, Repr

/-- Compares `a * 10 ^ i` with `n * 2 ^ j`. -/
def compareScaled (a : Nat) (i : Int) (n : Nat) (j : Int) : Ordering :=
  compare (a * pow10 i.toNat * pow2 (-j).toNat) (n * pow2 j.toNat * pow10 (-i).toNat)

/-- Whether a decimal lies among the reals that round to the magnitude of `x`: those up to halfway to
its neighbours, the ends included if the magnitude is even. -/
def Scientific.roundsTo (d : Scientific) (x : Binary64) : Bool :=
  let v := x.magnitude
  let low := if x.narrowBelow then 4 * v.m - 1 else 4 * v.m - 2
  let even := v.m % 2 = 0
  let below := compareScaled d.digits d.exponent low (v.q - 2)
  let above := compareScaled d.digits d.exponent (4 * v.m + 2) (v.q - 2)
  (below = .gt || (even && below = .eq)) && (above = .lt || (even && above = .eq))

/-- The larger multiple of `10 ^ e` that does not exceed the magnitude of `x`, divided by it. -/
def gridFloor (x : Binary64) (e : Int) : Nat :=
  let v := x.magnitude
  (v.m * pow2 v.q.toNat * pow10 (-e).toNat) / (pow2 (-v.q).toNat * pow10 e.toNat)

/-- The candidate of `x` on the grid of multiples of `10 ^ e`, if one of its neighbours there rounds
to it. -/
def onGrid? (tie : Tie) (x : Binary64) (e : Int) : Option Scientific :=
  let n := gridFloor x e
  let low : Scientific := ⟨n, e⟩
  let high : Scientific := ⟨n + 1, e⟩
  match low.roundsTo x, high.roundsTo x with
  | false, false => none
  | true, false => some low
  | false, true => some high
  | true, true =>
    let v := x.magnitude
    match compareScaled (2 * n + 1) e (2 * v.m) v.q with
    | .lt => some high
    | .gt => some low
    | .eq =>
      match tie with
      | .upward => some high
      | .toEven => some (if n % 2 = 0 then low else high)

/-- The least `k` with `x < 10 ^ k`, found upward from an estimate that is not too large. -/
def decimalScale (x : Binary64) : Int :=
  let v := x.magnitude
  let bitLength : Int := (Nat.log2 v.m : Int) + v.q
  let estimate := bitLength * 30103 / 100000 - 1
  let isBelow (k : Int) : Bool := compareScaled 1 k v.m v.q = .gt
  ([0, 1, 2, 3].map fun (i : Int) => estimate + i).find? isBelow |>.getD (estimate + 4)

/-- The first grid with a candidate, from `count` grids that get ten times finer each. -/
def searchGrids (tie : Tie) (x : Binary64) (e : Int) : (count : Nat) → Option Scientific
  | 0 => none
  | count + 1 =>
    match onGrid? tie x e with
    | some d => some d
    | none => searchGrids tie x (e - 1) count

/-- Moves the zeros that end the digits into the exponent. -/
def Scientific.normalize (d : Scientific) : Scientific :=
  if h : d.digits = 0 then ⟨0, 0⟩
  else if d.digits % 10 = 0 then normalize ⟨d.digits / 10, d.exponent + 1⟩ else d
termination_by d.digits
decreasing_by exact Nat.div_lt_self (Nat.pos_of_ne_zero h) (by decide)

/-- The shortest decimal that rounds to the magnitude of a finite number. Seventeen digits always
suffice. -/
def shortest (tie : Tie) (x : Binary64) : Scientific :=
  if x.isZero then ⟨0, 0⟩
  else ((searchGrids tie x (decimalScale x - 1) 17).getD ⟨0, 0⟩).normalize

/-- The digits of a natural number in base ten. -/
def digitsOf (n : Nat) : List Char := Nat.toDigits 10 n

/-- A decimal without an exponent, with at least one digit after the point: `1.0`, `0.00001`. -/
def Scientific.positional (d : Scientific) : String :=
  let digits := digitsOf d.digits
  let point : Int := (digits.length : Int) + d.exponent
  if d.exponent ≥ 0 then
    String.ofList (digits ++ List.replicate d.exponent.toNat '0' ++ ['.', '0'])
  else if point > 0 then
    String.ofList (digits.take point.toNat ++ '.' :: digits.drop point.toNat)
  else
    String.ofList ('0' :: '.' :: (List.replicate (-point).toNat '0' ++ digits))

/-- A decimal as its first digit, a point before the others if there are any, and the power of ten:
`1e-6`, `1.5e+16`. -/
def Scientific.exponential (d : Scientific) (plus : String) : String :=
  let digits := digitsOf d.digits
  let power : Int := (digits.length : Int) - 1 + d.exponent
  let head := String.ofList (digits.take 1)
  let tail := digits.drop 1
  let mantissa := if tail.isEmpty then head else head ++ "." ++ String.ofList tail
  let sign := if power < 0 then "-" else plus
  mantissa ++ "e" ++ sign ++ Nat.repr power.natAbs

/-- The power of ten of a decimal's first digit. -/
def Scientific.leadingPower (d : Scientific) : Int :=
  ((digitsOf d.digits).length : Int) - 1 + d.exponent

/-- How a format writes floating-point numbers. -/
structure FloatFormat where
  /-- What stands before a positive exponent. -/
  plus : String
  /-- Which of two equally near decimals is written. -/
  tie : Tie
  /-- Whether a number whose first digit has this power of ten is written without exponent. -/
  isPositional : Int → Bool

def FloatFormat.write (format : FloatFormat) (x : Binary64) : String :=
  let d := shortest format.tie x
  let sign := if x.isNegative then "-" else ""
  if x.isZero || format.isPositional d.leadingPower then sign ++ d.positional
  else sign ++ d.exponential format.plus

end ApiRoutes.Decimal
