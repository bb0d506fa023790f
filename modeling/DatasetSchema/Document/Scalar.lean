import DatasetSchema.Number.Binary64
import DatasetSchema.Number.Digits

/-!
# The meaning of plain scalars

A plain scalar may stand for nothing, a truth value or a number; otherwise it is a text. Whole
numbers are decimal, or hexadecimal, octal or binary behind `0x`, `0o` or `0b`. Digits that begin
with a superfluous zero are a text, and so is a number too large for binary64.
-/

namespace DatasetSchema.Document

open DatasetSchema.Number

/-- What a plain scalar stands for. -/
inductive Scalar where
  | null
  | boolean (value : Bool)
  | integer (value : Int)
  /-- A number with a point or an exponent. -/
  | decimal (value : Binary64)
  /-- The text itself. -/
  | text
  deriving DecidableEq, Repr

namespace Scalar

/-- Whether a text stands for nothing. -/
def isNull (s : String) : Bool :=
  s == "null" || s == "Null" || s == "NULL" || s == "~"

/-- The truth value that a text stands for. -/
def boolean? (s : String) : Option Bool :=
  if s == "true" || s == "True" || s == "TRUE" then some true
  else if s == "false" || s == "False" || s == "FALSE" then some false
  else none

/-- The natural number behind a mark such as `0x`. -/
def marked? (cs : List Char) : Option Nat :=
  match cs with
  | '0' :: 'x' :: cs => natural? 16 cs
  | '0' :: 'o' :: cs => natural? 8 cs
  | '0' :: 'b' :: cs => natural? 2 cs
  | _ => none

/-- Whether a text without its sign consists of digits of which the first is a superfluous zero. -/
def isPadded : List Char → Bool
  | '0' :: c :: cs => (c :: cs).all Char.isDigit
  | _ => false

/-- A text without its sign. -/
def withoutSign : List Char → List Char
  | '-' :: cs => cs
  | '+' :: cs => cs
  | cs => cs

/-- The natural number that a text without sign stands for. -/
def unsigned? (cs : List Char) : Option Nat :=
  marked? cs <|> if isPadded cs then none else natural? 10 cs

/-- The whole number that a text stands for. It must fit into 128 bits. -/
def integer? (cs : List Char) : Option Int :=
  match cs with
  | '-' :: cs => ((unsigned? cs).filter (· ≤ powerOfTwo 127)).map fun n => -(n : Int)
  | '+' :: cs => ((unsigned? cs).filter (· < powerOfTwo 128)).map fun n => (n : Int)
  | cs => ((unsigned? cs).filter (· < powerOfTwo 128)).map fun n => (n : Int)

/-- The power of ten behind the digits of a number: zero, or what follows an `e`. -/
def exponent? (cs : List Char) : Option Int :=
  match cs with
  | [] => some 0
  | e :: cs =>
    if e == 'e' || e == 'E' then
      match cs with
      | '-' :: cs => (natural? 10 cs).map fun n => -(n : Int)
      | '+' :: cs => (natural? 10 cs).map fun n => (n : Int)
      | cs => (natural? 10 cs).map fun n => (n : Int)
    else none

/-- The number that digits with a point or an exponent are. -/
def unsignedDecimal? (negative : Bool) (cs : List Char) : Option Binary64 :=
  let whole := cs.takeWhile Char.isDigit
  let rest := cs.dropWhile Char.isDigit
  let (fraction, rest) :=
    match rest with
    | '.' :: rest => (rest.takeWhile Char.isDigit, rest.dropWhile Char.isDigit)
    | rest => ([], rest)
  if whole.isEmpty && fraction.isEmpty then none
  else do
    let exponent ← exponent? rest
    let digits ← appendDigits? 10 0 (whole ++ fraction)
    return Binary64.ofDecimal negative digits (exponent - fraction.length)

/-- The number with a point or an exponent that a text stands for. -/
def decimal? (cs : List Char) : Option Binary64 :=
  let (sign, body) :=
    match cs with
    | '+' :: body => (some false, body)
    | '-' :: body => (some true, body)
    | body => (none, body)
  if [".inf", ".Inf", ".INF"].contains (String.ofList body) then
    some (.infinite (sign == some true))
  else if sign.isNone && [".nan", ".NaN", ".NAN"].contains (String.ofList body) then some .nan
  else
    match unsignedDecimal? (sign == some true) body with
    | some (.finite negative count) => some (.finite negative count)
    | _ => none

/-- What a plain scalar stands for. -/
def ofText (s : String) : Scalar :=
  if s.isEmpty || isNull s then .null
  else
    match boolean? s with
    | some b => .boolean b
    | none =>
      match integer? s.toList with
      | some n => .integer n
      | none =>
        if isPadded (withoutSign s.toList) then .text
        else
          match decimal? s.toList with
          | some x => .decimal x
          | none => .text

end Scalar

end DatasetSchema.Document
