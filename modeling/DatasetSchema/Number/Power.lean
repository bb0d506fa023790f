/-!
# Powers

The powers that numbers are written and stored with: powers of two bound what a word holds, and
powers of ten move the point of a decimal.
-/

namespace DatasetSchema.Number

/-- The power `2 ^ n`: the first natural number that needs more than `n` bits. -/
def powerOfTwo (n : Nat) : Nat :=
  Nat.pow 2 n

/-- The power `10 ^ n`: the first natural number that needs more than `n` digits. -/
def powerOfTen (n : Nat) : Nat :=
  Nat.pow 10 n

end DatasetSchema.Number
