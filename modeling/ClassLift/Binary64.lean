/-
  Decimals as numbers of 53 bits.

  A number written with a fraction or an exponent stands for the nearest number `m * 2 ^ k` with
  `m < 2 ^ 53` and `k` at least -1074; a tie goes to the even `m`.  What matters here is whether
  that number is an integer, and which: `9007199254740993.0` stands for 9007199254740992, and
  `1.00000000000000000001` for 1.

  With `k` chosen so that the decimal lies between `2 ^ 52` and `2 ^ 53` units of `2 ^ k`, one
  division of natural numbers and a comparison of the remainder with half the divisor give `m`.
  Exponents far out of range are answered beforehand, so no huge power is ever computed.
-/
import ClassLift.Text.Blank

namespace ClassLift

/-- What a decimal stands for. -/
inductive Rounded
  | integer (n : Nat)
  | fractional
  | overflow
  deriving DecidableEq, Repr

/-- The quotient to the nearest, ties to even. -/
def roundDiv (num den : Nat) : Nat :=
  let q := num / den
  let twice := 2 * (num % den)
  if twice < den || (twice == den && q % 2 == 0) then q else q + 1

/-- The quotient of `num` and `den` in units of `2 ^ k`, as a quotient again. -/
def inUnits (num den : Nat) (k : Int) : Nat × Nat :=
  if k < 0 then (num * Nat.pow 2 k.natAbs, den) else (num, den * Nat.pow 2 k.natAbs)

/-- The quotient of `num` and `den` in units of `2 ^ k`, to the nearest. -/
def unitsOf (num den : Nat) (k : Int) : Nat :=
  let (n, d) := inUnits num den k
  roundDiv n d

/-- Whether the quotient of `num` and `den` is less than `2 ^ 52` units of `2 ^ k`.  This is asked
    of the quotient itself: one that is only rounded up to `2 ^ 52` has room for one more bit. -/
def isShort (num den : Nat) (k : Int) : Bool :=
  let (n, d) := inUnits num den k
  n / d < Nat.pow 2 52

def ofUnits (m : Nat) (k : Int) : Rounded :=
  if 0 ≤ k then
    let n := m * Nat.pow 2 k.natAbs
    if Nat.pow 2 1024 ≤ n then .overflow else .integer n
  else if m % Nat.pow 2 k.natAbs == 0 then .integer (m / Nat.pow 2 k.natAbs)
  else .fractional

/-- The number that a quotient stands for. -/
def roundQuotient (num den : Nat) : Rounded :=
  let guess : Int := max ((num.log2 : Int) - den.log2 - 52) (-1074)
  let k := if isShort num den guess && -1074 < guess then guess - 1 else guess
  ofUnits (unitsOf num den k) k

/-- The number that `mantissa * 10 ^ exponent` stands for. -/
def roundDecimal (mantissa : Nat) (exponent : Int) : Rounded :=
  let size : Int := exponent + (Nat.toDigits 10 mantissa).length
  if mantissa == 0 || size < -400 then .integer 0
  else if 400 < size then .overflow
  else if exponent < 0 then roundQuotient mantissa (Nat.pow 10 exponent.natAbs)
  else roundQuotient (mantissa * Nat.pow 10 exponent.natAbs) 1

example : roundDecimal 20 (-1) = .integer 2 ∧ roundDecimal 25 (-1) = .fractional ∧
    roundDecimal 90071992547409930 (-1) = .integer 9007199254740992 ∧
    roundDecimal 92233720368547747840 (-1) = .integer 9223372036854774784 := by decide +kernel

end ClassLift
