/-!
# Powers

The powers of the two bases that numbers are written in.
-/

namespace ApiRoutes.Decimal

def pow2 (n : Nat) : Nat := Nat.pow 2 n

def pow10 (n : Nat) : Nat := Nat.pow 10 n

/-- Whether an integer fits a word with `bits` binary digits that holds negative numbers as well. -/
def fitsSigned (bits : Nat) (n : Int) : Bool :=
  -(pow2 (bits - 1) : Int) ≤ n && n < (pow2 (bits - 1) : Int)

/-- Whether an integer fits a word with `bits` binary digits that holds no negative numbers. -/
def fitsUnsigned (bits : Nat) (n : Int) : Bool := 0 ≤ n && n < (pow2 bits : Int)

end ApiRoutes.Decimal
