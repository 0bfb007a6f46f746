import ApiRoutes.Data.Content
import ApiRoutes.Decimal.Numeral
import ApiRoutes.Text.Digits
import ApiRoutes.Yaml.Node

/-!
# The types of scalars

What a plain scalar stands for is told by its spelling: nothing, a truth value, an integer, a
floating-point number or else a text. A tag may ask for one of these. Numbers may be written with a
sign; integers also in bases 16, 8 and 2; digits that begin with a superfluous zero are a text.
-/

namespace ApiRoutes.Yaml

open Decimal (Number Binary64 Numeral)

def isNullWord (s : String) : Bool := ["null", "Null", "NULL", "~"].contains s

/-- The truth value that is spelled. -/
def boolWord? (s : String) : Option Bool :=
  if ["true", "True", "TRUE"].contains s then some true
  else if ["false", "False", "FALSE"].contains s then some false
  else none

/-- The natural number that is spelled without a sign. -/
def unsigned? : List Char → Option Nat
  | '0' :: 'x' :: digits => Text.number? 16 digits
  | '0' :: 'o' :: digits => Text.number? 8 digits
  | '0' :: 'b' :: digits => Text.number? 2 digits
  | '0' :: _ :: _ => none
  | digits => Text.number? 10 digits

/-- The natural number that is spelled, perhaps after a plus sign. -/
def natural? : List Char → Option Nat
  | '+' :: cs => unsigned? cs
  | cs => unsigned? cs

def integer? : List Char → Option Int
  | '-' :: cs => (unsigned? cs).map fun n => -(n : Int)
  | cs => (natural? cs).map fun n => (n : Int)

def fitsWord (n : Int) : Bool := Decimal.fitsSigned 64 n || Decimal.fitsUnsigned 64 n

def fitsWideWord (n : Int) : Bool := Decimal.fitsSigned 128 n || Decimal.fitsUnsigned 128 n

/-- Digits that begin with a superfluous zero, perhaps after a sign. -/
def isPaddedNumber (cs : List Char) : Bool :=
  let digits := match cs with
    | '-' :: rest => rest
    | '+' :: rest => rest
    | rest => rest
  match digits with
  | '0' :: c :: rest => (c :: rest).all Char.isDigit
  | _ => false

/-- The digits at the start of a text, as numbers, and what follows. -/
def leadingDigits (cs : List Char) : List Nat × List Char :=
  ((cs.takeWhile Char.isDigit).map fun c => c.toNat - '0'.toNat, cs.dropWhile Char.isDigit)

/-- The sign at the start of a text, true for a minus, and what follows. -/
def leadingSign : List Char → Bool × List Char
  | '-' :: rest => (true, rest)
  | '+' :: rest => (false, rest)
  | rest => (false, rest)

/-- A decimal numeral with a sign, a point and an exponent as wished, and at least one digit before
or after the point. -/
def numeral? (cs : List Char) : Option Numeral :=
  let (negative, cs) := leadingSign cs
  let (whole, cs) := leadingDigits cs
  let (hasPoint, fraction, cs) :=
    match cs with
    | '.' :: rest =>
      let (fraction, rest) := leadingDigits rest
      (true, fraction, rest)
    | rest => (false, [], rest)
  if whole.isEmpty && fraction.isEmpty then none
  else
    match cs with
    | [] => some ⟨negative, whole, fraction, none, hasPoint⟩
    | e :: cs =>
      let (negativeExponent, cs) := leadingSign cs
      let (exponent, rest) := leadingDigits cs
      if (e = 'e' || e = 'E') && !exponent.isEmpty && rest.isEmpty then
        some ⟨negative, whole, fraction, some (negativeExponent, exponent), hasPoint⟩
      else none

/-- The floating-point number that is spelled: a numeral within range, an infinity or none. -/
def float? (s : String) : Option Binary64 :=
  if [".inf", ".Inf", ".INF", "+.inf", "+.Inf", "+.INF"].contains s then
    some (Binary64.infinity false)
  else if ["-.inf", "-.Inf", "-.INF"].contains s then some (Binary64.infinity true)
  else if [".nan", ".NaN", ".NAN"].contains s then some Binary64.nan
  else (numeral? s.toList).map Numeral.exact |>.filter Binary64.isFinite

/-- What an integer's spelling stands for. Integers of more than 128 bits are none, and for those of
more than 64 bits there is no value. -/
def integerContent? (s : String) : Option (Option Content) :=
  match (integer? s.toList).filter fitsWideWord with
  | some n => some (if fitsWord n then some (.int n) else none)
  | none => none

/-- What a plain scalar stands for. -/
def plainContent? (s : String) : Option Content :=
  if s.isEmpty || isNullWord s then some .null
  else
    match boolWord? s with
    | some b => some (.bool b)
    | none =>
      match integerContent? s with
      | some content => content
      | none =>
        match (if isPaddedNumber s.toList then none else float? s) with
        | some x => some (.number (.float x))
        | none => some (.text s)

def Tag.isLocal (tag : Tag) : Bool := tag.localName?.isSome

/-- What a scalar stands for. There is no value for one with a local tag, nor for one whose spelling
is not of the kind that its tag asks for. -/
def scalarContent? (tag : Option Tag) (style : Style) (s : String) : Option Content :=
  match tag with
  | none => if style = .plain then plainContent? s else some (.text s)
  | some tag =>
    if tag.isLocal then none
    else if tag.isStandard "bool" then (boolWord? s).map .bool
    else if tag.isStandard "int" then (integerContent? s).join
    else if tag.isStandard "float" then (float? s).map fun x => .number (.float x)
    else if tag.isStandard "null" then (if isNullWord s then some .null else none)
    else if tag.octets.head? = some '!'.toNat.toUInt8 && style = .plain then plainContent? s
    else some (.text s)

/-- Whether a scalar may be read as a value of the kind that the tag `name` asks for: a plain one, or
a literal block with this tag. -/
def spellsValue (name : String) (tag : Option Tag) (style : Style) : Bool :=
  style = .plain || (style = .literal && tag.any (·.isStandard name))

end ApiRoutes.Yaml
