import DatasetSchema.Number.Binary64
import DatasetSchema.Number.Digits
import DatasetSchema.Toml.Value

/-!
# TOML scalars without quotes

Truth values, numbers, dates and times are written without quotes. Underscores may stand between the
digits of a number. A decimal number has no superfluous zeros at its front, and a hexadecimal, octal
or binary one has no sign.
-/

namespace DatasetSchema.Toml

/-- Digits without the underscores between them. -/
def withoutUnderscores? : List Char → Option (List Char)
  | [] => none
  | [c] => if c == '_' then none else some [c]
  | c :: '_' :: cs => if c == '_' then none else (withoutUnderscores? cs).map (c :: ·)
  | c :: cs => if c == '_' then none else (withoutUnderscores? cs).map (c :: ·)

/-- The natural number that digits in a base are. -/
def digits? (base : Nat) (cs : List Char) : Option Nat :=
  (withoutUnderscores? cs).bind (Number.natural? base)

/-- The natural number that decimal digits without superfluous zeros are. -/
def decimalDigits? (cs : List Char) : Option Nat :=
  match cs with
  | '0' :: _ :: _ => none
  | cs => digits? 10 cs

/-- A whole number as a value, if it fits into 128 bits. -/
def ofInteger (n : Int) : Value :=
  if -(Number.powerOfTwo 127 : Int) ≤ n ∧ n < (Number.powerOfTwo 128 : Int) then .integer n
  else .tooLarge

/-- The whole number that a text stands for. -/
def integer? (cs : List Char) : Option Value :=
  match cs with
  | '0' :: 'x' :: cs => (digits? 16 cs).map fun n => ofInteger n
  | '0' :: 'o' :: cs => (digits? 8 cs).map fun n => ofInteger n
  | '0' :: 'b' :: cs => (digits? 2 cs).map fun n => ofInteger n
  | '-' :: cs => (decimalDigits? cs).map fun n => ofInteger (-(n : Int))
  | '+' :: cs => (decimalDigits? cs).map fun n => ofInteger n
  | cs => (decimalDigits? cs).map fun n => ofInteger n

/-- The power of ten that is written behind an `e`. -/
def exponent? (cs : List Char) : Option Int :=
  match cs with
  | '-' :: cs => (digits? 10 cs).map fun n => -(n : Int)
  | '+' :: cs => (digits? 10 cs).map fun n => (n : Int)
  | cs => (digits? 10 cs).map fun n => (n : Int)

/-- A number with a point or an exponent as a value. -/
def ofDecimal (digits : Nat) (exponent : Int) : Value :=
  match Number.Binary64.ofDecimal false digits exponent with
  | .finite _ _ => .decimal
  | _ => .tooLarge

/-- The number with a point, an exponent or both that a text without its sign stands for. -/
def unsignedDecimal? (cs : List Char) : Option Value := do
  let isMark := fun c => c == '.' || c == 'e' || c == 'E'
  let isPower := fun c => c == 'e' || c == 'E'
  let whole := cs.takeWhile fun c => !isMark c
  let wholeValue ← decimalDigits? whole
  match cs.dropWhile fun c => !isMark c with
  | '.' :: rest =>
    let fraction ← withoutUnderscores? (rest.takeWhile fun c => !isPower c)
    let fractionValue ← Number.natural? 10 fraction
    let exponent ←
      match rest.dropWhile fun c => !isPower c with
      | [] => some 0
      | _ :: power => exponent? power
    let digits := wholeValue * Number.powerOfTen fraction.length + fractionValue
    return ofDecimal digits (exponent - fraction.length)
  | _ :: power => return ofDecimal wholeValue (← exponent? power)
  | [] => none

/-- The number with a point or an exponent that a text stands for. -/
def decimal? (cs : List Char) : Option Value :=
  let body :=
    match cs with
    | '-' :: body => body
    | '+' :: body => body
    | body => body
  if body == "inf".toList || body == "nan".toList then some .decimal else unsignedDecimal? body

/-- Reads a number of so many digits that lies between two bounds. -/
def field? (width low high : Nat) (cs : List Char) : Option (Nat × List Char) := do
  let digits := cs.take width
  if digits.length < width then none
  else
    let n ← Number.natural? 10 digits
    if n < low || high < n then none else some (n, cs.drop width)

/-- What follows a given character, if it comes first. -/
def after? (c : Char) : List Char → Option (List Char)
  | [] => none
  | d :: cs => if c == d then some cs else none

/-- The number of days of a month. -/
def daysOf (year month : Nat) : Nat :=
  if month == 2 then if (year % 4 == 0 && year % 100 != 0) || year % 400 == 0 then 29 else 28
  else if [4, 6, 9, 11].contains month then 30
  else 31

/-- Reads a date such as `1979-05-27`. -/
def date? (cs : List Char) : Option (List Char) := do
  let (year, cs) ← field? 4 0 9999 cs
  let (month, cs) ← field? 2 1 12 (← after? '-' cs)
  let (_, cs) ← field? 2 1 (daysOf year month) (← after? '-' cs)
  return cs

/-- Reads the seconds of a time, which may be left out, and the fraction behind them. -/
def seconds? (cs : List Char) : Option (List Char) :=
  match after? ':' cs with
  | none => some cs
  | some cs => do
    let (_, cs) ← field? 2 0 60 cs
    match after? '.' cs with
    | none => return cs
    | some cs =>
      if (cs.takeWhile Char.isDigit).isEmpty then none else some (cs.dropWhile Char.isDigit)

/-- Reads a time such as `07:32:00`. -/
def time? (cs : List Char) : Option (List Char) := do
  let (_, cs) ← field? 2 0 23 cs
  let (_, cs) ← field? 2 0 59 (← after? ':' cs)
  seconds? cs

/-- Whether a text is an offset from universal time, or empty. -/
def isOffset : List Char → Bool
  | [] => true
  | ['Z'] => true
  | ['z'] => true
  | c :: cs =>
    (c == '+' || c == '-') &&
      match field? 2 0 23 cs with
      | some (_, ':' :: cs) => (field? 2 0 59 cs).any fun r => r.2.isEmpty
      | _ => false

/-- Whether a text is a date, a time, or a date and a time. -/
def isDateTime (cs : List Char) : Bool :=
  match date? cs with
  | some [] => true
  | some (c :: cs) => (c == 'T' || c == 't' || c == ' ') && (time? cs).any isOffset
  | none => (time? cs).any List.isEmpty

/-- The value that a text without quotes stands for. -/
def scalar? (cs : List Char) : Option Value :=
  if cs == "true".toList then some (.boolean true)
  else if cs == "false".toList then some (.boolean false)
  else if isDateTime cs then some .dateTime
  else integer? cs <|> decimal? cs

/-- Whether a character may stand in a scalar without quotes. -/
def isScalarChar (c : Char) : Bool :=
  c.isAlphanum || c == '+' || c == '-' || c == '_' || c == '.' || c == ':'

/-- Reads a scalar without quotes. A date and a time may be separated by a space. -/
def readScalar? (cs : List Char) : Option (Value × List Char) :=
  let first := cs.takeWhile isScalarChar
  let rest := cs.dropWhile isScalarChar
  match date? first, rest with
  | some [], ' ' :: c :: others =>
    if c.isDigit then
      let second := (c :: others).takeWhile isScalarChar
      (scalar? (first ++ ' ' :: second)).map (·, (c :: others).dropWhile isScalarChar)
    else (scalar? first).map (·, rest)
  | _, _ => (scalar? first).map (·, rest)

end DatasetSchema.Toml
