import ApiRoutes.Decimal.Shortest

/-!
# Numbers of templates

A template computes with whole numbers and with floating-point numbers. A whole number that is
written down or counted has no sign and is kept in a word of 64 bits, or of 128 if it is larger; one
that is computed has a sign and is kept likewise. Arithmetic brings two numbers to a common kind,
comparison does so only where nothing is lost. An operation whose result does not fit 128 bits has
none.
-/

namespace ApiRoutes.Template

open Decimal (Binary64 FloatFormat pow2 fitsSigned fitsUnsigned)

inductive Number where
  /-- A whole number as it is written or counted. -/
  | natural (n : Nat)
  /-- A whole number that is computed. -/
  | whole (n : Int)
  | float (x : Float)
  deriving Inhabited

namespace Number

/-! ## Showing -/

def writeFloat (format : FloatFormat) (x : Float) : String :=
  let bits : Binary64 := ⟨x.toBits⟩
  if bits.isNaN then "NaN"
  else if !bits.isFinite then (if bits.isNegative then "-inf" else "inf")
  else format.write bits

/-- On its own a floating-point number is written without exponent. -/
def plainFloats : FloatFormat := ⟨"", .upward, fun _ => true⟩

/-- Inside a list a floating-point number below `0.0001` or from `10 ^ 16` on has an exponent. -/
def listedFloats : FloatFormat := ⟨"", .upward, fun power => -4 ≤ power && power < 16⟩

def write (floats : FloatFormat) : Number → String
  | natural n => Nat.repr n
  | whole n => toString n
  | float x => writeFloat floats x

/-! ## Changing kind -/

/-- The floating-point number nearest to a whole number. -/
def nearestFloat (n : Int) : Float := Float.ofBits (Binary64.ofRatio (n < 0) n.natAbs 1).bits

/-- A finite floating-point number without its fraction. -/
def wholePart (x : Float) : Int :=
  let bits : Binary64 := ⟨x.toBits⟩
  let (top, bottom) := bits.ratio
  if bits.isNegative then -(top / bottom : Nat) else (top / bottom : Nat)

/-- The whole number of 64 bits that equals a floating-point number, where the largest one stands for
the power of two above it. -/
def wholeOfFloat? (x : Float) : Option Int :=
  if (⟨x.toBits⟩ : Binary64).isFinite then
    let n := max (-(pow2 63 : Int)) (min ((pow2 63 : Int) - 1) (wholePart x))
    if nearestFloat n == x then some n else none
  else none

/-- The largest number of the word that a whole number is kept in. -/
def largest : Number → Int
  | natural n => if fitsUnsigned 64 n then (pow2 64 : Int) - 1 else (pow2 128 : Int) - 1
  | whole n => if fitsSigned 64 n then (pow2 63 : Int) - 1 else (pow2 127 : Int) - 1
  | float _ => 0

def toFloat : Number → Float
  | natural n => nearestFloat n
  | whole n => nearestFloat n
  | float x => x

/-- The floating-point number with the same value. A whole number whose nearest one lies beyond its
word is compared with the largest number of the word in its place. -/
def exactFloat? (number : Number) : Option Float :=
  let checked (n : Int) : Option Float :=
    let x := nearestFloat n
    if min number.largest (wholePart x) = n then some x else none
  match number with
  | natural n => checked n
  | whole n => checked n
  | float x => some x

/-- The whole number as a word of 128 bits with a sign, if it fits. -/
def signed? : Number → Option Int
  | natural n => if fitsSigned 128 n then some n else none
  | whole n => some n
  | float _ => none

/-- The whole number of 128 bits that a number stands for. -/
def whole? : Number → Option Int
  | float x => wholeOfFloat? x
  | number => number.signed?

/-- The position that a number stands for: a whole number of 64 bits with a sign. -/
def position? : Number → Option Int
  | float x => wholeOfFloat? x
  | natural n => if fitsSigned 64 n then some n else none
  | whole n => if fitsSigned 64 n then some n else none

/-- The count that a number stands for: a whole number of 64 bits without a sign. -/
def count? : Number → Option Nat
  | float x =>
    match wholeOfFloat? x with
    | some n => if n < 0 then none else some n.toNat
    | none => none
  | natural n => if fitsUnsigned 64 n then some n else none
  | whole n => if fitsUnsigned 64 n then some n.toNat else none

inductive Pair where
  | wholes (a b : Int)
  | floats (a b : Float)

/-- Two numbers brought to one kind: floating-point numbers if one of them is one, else words of 128
bits with a sign. Two natural numbers beyond 64 bits keep their bits, of which the highest then
counts as a sign. -/
def pair? (float? : Number → Option Float) : Number → Number → Option Pair
  | float a, float b => some (.floats a b)
  | float a, b => (float? b).map (.floats a ·)
  | a, float b => (float? a).map (.floats · b)
  | natural a, natural b =>
    if a ≥ pow2 64 && b ≥ pow2 64 then
      some (.wholes (Int.bmod a (pow2 128)) (Int.bmod b (pow2 128)))
    else do return .wholes (← signed? (natural a)) (← signed? (natural b))
  | a, b => do return .wholes (← a.signed?) (← b.signed?)

/-- Two numbers brought to one kind for arithmetic, which may round. -/
def rounded? (a b : Number) : Option Pair := pair? (some ∘ toFloat) a b

/-! ## Comparing -/

/-- Whether two numbers have the same value. -/
def equal (a b : Number) : Bool :=
  match pair? exactFloat? a b with
  | some (.wholes a b) => a == b
  | some (.floats a b) => a == b
  | none => false

/-- The place of a floating-point number among all of them: what is not a number comes first, and
minus zero before zero. -/
def place (x : Float) : Int :=
  let bits : Binary64 := ⟨x.toBits⟩
  if bits.isNaN then -(pow2 63 : Int)
  else if bits.isNegative then (pow2 63 : Int) - 1 - bits.bits.toNat
  else bits.bits.toNat

def compareFloats (a b : Float) : Ordering := compare (place a) (place b)

/-- Compares a whole number with a floating-point number exactly. -/
def compareMixed (n : Int) (x : Float) : Ordering :=
  let near := nearestFloat n
  (compareFloats near x).then (compare n (wholePart near))

def order (a b : Number) : Ordering :=
  match pair? exactFloat? a b with
  | some (.wholes a b) => compare a b
  | some (.floats a b) => compareFloats a b
  | none =>
    match a, b with
    | float x, natural n => (compareMixed n x).swap
    | float x, whole n => (compareMixed n x).swap
    | natural n, float x => compareMixed n x
    | whole n, float x => compareMixed n x
    | natural a, whole b => compare (a : Int) b
    | whole a, natural b => compare a (b : Int)
    | natural a, natural b => compare a b
    | whole a, whole b => compare a b
    | float a, float b => compareFloats a b

/-! ## Arithmetic -/

/-- A computed whole number, if it fits. -/
def computed? (n : Int) : Option Number := if fitsSigned 128 n then some (whole n) else none

/-- An operation on two numbers of one kind. -/
def arithmetic? (wholes : Int → Int → Option Int) (floats : Float → Float → Float)
    (a b : Number) : Option Number :=
  match rounded? a b with
  | some (.wholes a b) => (wholes a b).bind computed?
  | some (.floats a b) => some (float (floats a b))
  | none => none

/-- What is left of `a` after division by `b` toward zero. -/
def remainder (a b : Float) : Float :=
  let x : Binary64 := ⟨a.toBits⟩
  let y : Binary64 := ⟨b.toBits⟩
  if !x.isFinite || y.isNaN || y.isZero then Float.ofBits Binary64.nan.bits
  else if !y.isFinite then a
  else
    let (p, q) := x.ratio
    let (r, s) := y.ratio
    Float.ofBits (Binary64.ofRatio x.isNegative (p * s % (r * q)) (q * s)).bits

def truncatedQuotient (a b : Float) : Float :=
  let q := a / b
  if q < 0.0 then q.ceil else q.floor

/-- The quotient that leaves a remainder that is not negative. -/
def euclideanQuotient (a b : Float) : Float :=
  let q := truncatedQuotient a b
  if remainder a b < 0.0 then (if b > 0.0 then q - 1.0 else q + 1.0) else q

/-- A power, if the exponent is a word of 32 bits without sign. Of more than 128 factors only those
that are zero or one in size have a product that fits. -/
def power? (a b : Int) : Option Int :=
  if !fitsUnsigned 32 b then none
  else if b ≤ 128 then some (Int.pow a b.toNat)
  else if a.natAbs ≤ 1 then some (Int.pow a (b.toNat % 2 + 2))
  else none

def add? : Number → Number → Option Number := arithmetic? (fun a b => some (a + b)) (· + ·)

def sub? : Number → Number → Option Number := arithmetic? (fun a b => some (a - b)) (· - ·)

def mul? : Number → Number → Option Number := arithmetic? (fun a b => some (a * b)) (· * ·)

def div (a b : Number) : Number := float (a.toFloat / b.toFloat)

/-- The quotient that leaves a remainder that is not negative. -/
def floorDiv? : Number → Number → Option Number :=
  arithmetic? (fun a b => if b = 0 then none else some (a.ediv b)) euclideanQuotient

/-- The remainder: of whole numbers it is not negative, of others it has the sign of the first. There
is none where the quotient does not fit. -/
def rem? : Number → Number → Option Number :=
  arithmetic? (fun a b => if b = 0 || !fitsSigned 128 (a.ediv b) then none else some (a.emod b))
    remainder

/-- The power, of floating-point numbers or as `power?` says. -/
def pow? : Number → Number → Option Number := arithmetic? power? Float.pow

/-- The number with the other sign. The natural number whose opposite is the least word of 128 bits
stays as it is. -/
def neg? : Number → Option Number
  | natural n => if n = pow2 127 then some (natural n) else (signed? (natural n)).bind (computed? <| -·)
  | whole n => computed? (-n)
  | float x => some (float (-x))

/-! ## Answers about numbers -/

def isTrue : Number → Bool
  | natural n => n != 0
  | whole n => n != 0
  | float x => x != 0.0

/-- Whether a number is a whole number with the given remainder by two. -/
def hasParity (number : Number) (rest : Int) : Bool :=
  match number.whole? with
  | some n => n.emod 2 == rest
  | none => false

end Number

end ApiRoutes.Template
