import DatasetSchema.Number.Binary64

/-!
# The shortest decimal of a binary64 number

A decimal names a binary64 number if no other one is nearer to it. Among the decimals that name a
number the shortest are those with the fewest digits, and of these the one nearest to the number is
taken. For each digit count only the two neighbours of the number on that decimal grid can name it.
-/

namespace DatasetSchema.Number

/-- The decimal `digits · 10 ^ exponent`. -/
structure Decimal where
  /-- The digits, read as one natural number. -/
  digits : Nat
  /-- The power of ten that the digits are multiplied with. -/
  exponent : Int
  deriving DecidableEq, Repr

namespace Decimal

/-- The quotient `digits · 10 ^ exponent / 2⁻¹⁰⁷⁵` as a numerator; the denominator is
`denominator`. -/
def numerator (d : Decimal) : Nat :=
  d.digits * powerOfTen d.exponent.toNat * powerOfTwo 1075

/-- The denominator that belongs to `numerator`. -/
def denominator (d : Decimal) : Nat :=
  powerOfTen (-d.exponent).toNat

/-- Whether the number with this count is the one nearest to the decimal. A decimal halfway between
two numbers names the one with the even count of steps. -/
def names (d : Decimal) (count : Nat) : Bool :=
  let low := (2 * count - Binary64.stepBelow count) * d.denominator
  let high := (2 * count + Binary64.step count) * d.denominator
  if count / Binary64.step count % 2 = 0 then low ≤ d.numerator && d.numerator ≤ high
  else low < d.numerator && d.numerator < high

/-- How far the decimal lies from the number with this count, in units of `2⁻¹⁰⁷⁵ / denominator`. -/
def distance (d : Decimal) (count : Nat) : Nat :=
  let exact := 2 * count * d.denominator
  (d.numerator - exact) + (exact - d.numerator)

/-- Removes trailing zeros from the digits; `bound` is at least the number of digits. -/
def trim : (bound : Nat) → Decimal → Decimal
  | 0, d => d
  | bound + 1, d =>
    if d.digits % 10 = 0 ∧ d.digits ≠ 0 then trim bound ⟨d.digits / 10, d.exponent + 1⟩ else d

/-- The decimal with the given exponent next below the number with this count. -/
def below (count : Nat) (exponent : Int) : Decimal :=
  ⟨count * powerOfTen (-exponent).toNat / (powerOfTen exponent.toNat * powerOfTwo 1074), exponent⟩

/-- The exponent of the first digit of a positive number: the largest `e` with
`10 ^ e` not above it. -/
def leadingExponent (count : Nat) : Int :=
  if powerOfTwo 1074 ≤ count then (Nat.toDigits 10 (count / powerOfTwo 1074)).length - 1
  else (Nat.toDigits 10 (count * powerOfTen 400 / powerOfTwo 1074)).length - 401

/-- The decimal with a given last place that names the number, if there is one: the nearer
neighbour, or of two equally near ones the even one. -/
def nearest? (count : Nat) (exponent : Int) : Option Decimal :=
  let low := below count exponent
  let high : Decimal := ⟨low.digits + 1, exponent⟩
  match low.names count, high.names count with
  | true, true =>
    if low.distance count < high.distance count then some low
    else if high.distance count < low.distance count then some high
    else if low.digits % 2 = 0 then some low
    else some high
  | true, false => some low
  | false, true => some high
  | false, false => none

/-- The shortest decimal of the positive number with this count. -/
def shortest (count : Nat) : Decimal :=
  -- Seventeen digits always name the number, so some grid has a hit.
  let first := leadingExponent count
  let found := (List.range 17).findSome? fun (n : Nat) => nearest? count (first - (n : Int))
  match found with
  | some d => trim 20 d
  | none => below count (first - 16)

/-- The number in positions: all digits written out around a point. -/
def positional (d : Decimal) : String :=
  let digits := Nat.toDigits 10 d.digits
  let point := digits.length + d.exponent
  if 0 ≤ d.exponent then String.ofList (digits ++ List.replicate d.exponent.toNat '0') ++ ".0"
  else if 0 < point then
    String.ofList (digits.take point.toNat) ++ "." ++ String.ofList (digits.drop point.toNat)
  else "0." ++ String.ofList (List.replicate (-point).toNat '0' ++ digits)

/-- The number with a power of ten behind it, as in `1.5e300`. -/
def scientific (d : Decimal) : String :=
  match Nat.toDigits 10 d.digits with
  | [] => "0"
  | [c] => String.ofList [c] ++ "e" ++ toString d.exponent
  | c :: cs =>
    String.ofList (c :: '.' :: cs) ++ "e" ++ toString (d.exponent + cs.length)

/-- The number in positions if it lies between 10⁻⁵ and 10¹⁶, otherwise with a power of ten. -/
def compact (d : Decimal) : String :=
  let point := (Nat.toDigits 10 d.digits).length + d.exponent
  if -5 < point && point ≤ 16 then d.positional else d.scientific

end Decimal

namespace Binary64

/-- The sign of a negative number. -/
def sign (negative : Bool) : String :=
  if negative then "-" else ""

/-- The text of a number as a document spells it: its shortest decimal in compact form. -/
def text : Binary64 → String
  | .nan => ".nan"
  | .infinite negative => sign negative ++ ".inf"
  | .finite negative 0 => sign negative ++ "0.0"
  | .finite negative count => sign negative ++ (Decimal.shortest count).compact

/-- The text of a number inside a message: its shortest decimal with every digit written out. -/
def plainText : Binary64 → String
  | .nan => "NaN"
  | .infinite negative => sign negative ++ "inf"
  | .finite negative 0 => sign negative ++ "0.0"
  | .finite negative count => sign negative ++ (Decimal.shortest count).positional

end Binary64

end DatasetSchema.Number
