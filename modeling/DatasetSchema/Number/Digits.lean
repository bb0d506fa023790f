/-!
# Digits

Natural numbers are written in a base of at most sixteen; the digits above nine are letters of
either case.
-/

namespace DatasetSchema.Number

/-- The value of a digit in a base up to sixteen. -/
def digitValue? (base : Nat) (c : Char) : Option Nat :=
  let value :=
    if c.isDigit then some (c.toNat - '0'.toNat)
    else if 'a' ≤ c && c ≤ 'f' then some (c.toNat - 'a'.toNat + 10)
    else if 'A' ≤ c && c ≤ 'F' then some (c.toNat - 'A'.toNat + 10)
    else none
  value.filter (· < base)

/-- The natural number that begins with the digits of `n` and goes on with some more. -/
def appendDigits? (base n : Nat) : List Char → Option Nat
  | [] => some n
  | c :: cs =>
    match digitValue? base c with
    | some d => appendDigits? base (base * n + d) cs
    | none => none

/-- The natural number that some digits, at least one, are. -/
def natural? (base : Nat) (cs : List Char) : Option Nat :=
  if cs.isEmpty then none else appendDigits? base 0 cs

end DatasetSchema.Number
