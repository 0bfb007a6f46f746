/-!
# Digits

Digits in a base up to sixteen, and the numbers that they write.
-/

namespace ApiRoutes.Text

/-- The value of a digit in either case. -/
def digit? (base : Nat) (c : Char) : Option Nat :=
  let value :=
    if '0' ≤ c && c ≤ '9' then c.toNat - '0'.toNat
    else if 'a' ≤ c && c ≤ 'f' then c.toNat - 'a'.toNat + 10
    else if 'A' ≤ c && c ≤ 'F' then c.toNat - 'A'.toNat + 10
    else base
  if value < base then some value else none

/-- The number that the characters write, if all are digits and there is at least one. -/
def number? (base : Nat) (cs : List Char) : Option Nat :=
  if cs.isEmpty then none
  else (cs.mapM (digit? base)).map fun digits => digits.foldl (fun n d => n * base + d) 0

/-- The number that four hexadecimal digits write, and what follows them. -/
def hexFour? (cs : List Char) : Option (Nat × List Char) :=
  if cs.length < 4 then none else (number? 16 (cs.take 4)).map (·, cs.drop 4)

end ApiRoutes.Text
