import DatasetSchema.Number.Power

/-!
# Binary64 numbers

A finite binary64 number is a sign and a count of the smallest positive one, 2⁻¹⁰⁷⁴. A count has at
most 53 significant bits, so large counts lie on a coarse grid. Rounding a quotient onto that grid
and telling how far apart neighbours lie are exact calculations on natural numbers.
-/

namespace DatasetSchema.Number

/-- A binary64 number, with one value for all that is not a number. -/
inductive Binary64 where
  | nan
  | infinite (negative : Bool)
  /-- The number `± count · 2⁻¹⁰⁷⁴`. -/
  | finite (negative : Bool) (count : Nat)
  deriving DecidableEq, Repr

namespace Binary64

/-- The distance from a count to the next larger one. -/
def step (count : Nat) : Nat :=
  if count < powerOfTwo 53 then 1 else powerOfTwo (count.log2 - 52)

/-- The distance from a count to the next smaller one, which is half as large below a power of
two. -/
def stepBelow (count : Nat) : Nat :=
  if powerOfTwo 53 ≤ count ∧ count = powerOfTwo count.log2 then step count / 2 else step count

/-- The first count that is too large for a finite number. -/
def countLimit : Nat := powerOfTwo 2098

/-- The natural number nearest to `numerator / denominator`; of two equally near ones the even
one. -/
def roundQuotient (numerator denominator : Nat) : Nat :=
  let below := numerator / denominator
  let doubled := 2 * (numerator % denominator)
  if doubled < denominator ∨ (doubled = denominator ∧ below % 2 = 0) then below else below + 1

/-- The count nearest to `numerator / denominator`. -/
def roundCount (numerator denominator : Nat) : Nat :=
  let grid := step (numerator / denominator)
  roundQuotient numerator (denominator * grid) * grid

/-- The finite number `± count · 2⁻¹⁰⁷⁴`, or an infinity if the count is too large. -/
def ofCount (negative : Bool) (count : Nat) : Binary64 :=
  if count < countLimit then .finite negative count else .infinite negative

/-- The binary64 number nearest to `± digits · 10 ^ exponent`. Exponents far outside the range of
finite numbers are decided by the size of the number alone. -/
def ofDecimal (negative : Bool) (digits : Nat) (exponent : Int) : Binary64 :=
  let size := (Nat.toDigits 10 digits).length + exponent
  if digits = 0 ∨ size < -400 then .finite negative 0
  else if 400 < size then .infinite negative
  else
    ofCount negative <|
      roundCount (digits * powerOfTen exponent.toNat * powerOfTwo 1074)
        (powerOfTen (-exponent).toNat)

/-- Equality of numbers: the two zeros are one number, and so are all that are not a number. -/
def same : Binary64 → Binary64 → Bool
  | .nan, .nan => true
  | .infinite a, .infinite b => a == b
  | .finite a m, .finite b n => m == n && (a == b || m == 0)
  | _, _ => false

end Binary64

end DatasetSchema.Number
