-- JSON numbers. A numeral without a point and an exponent is an integer, if
-- it has 64 bits. Every other numeral is a double.
import RuleFields.Decimal.Shortest

namespace RuleFields.Json

/-- A number of a JSON value. The integers are those that fit 64 bits, with or without a sign. -/
inductive Number where
  | integer (i : Int)
  | real (negative : Bool) (x : Binary64)
deriving DecidableEq, Repr

/-- A numeral as it is written, sign apart. -/
structure Numeral where
  negative : Bool
  whole : List Char
  fraction : Option (List Char)
  /-- The digits, and whether a minus stands before them. -/
  exponent : Option (Bool × List Char)

/-- The value of a list of decimal digits. -/
def digitsValue (ds : List Char) : Nat := ds.foldl (fun n d => 10 * n + (d.toNat - 48)) 0

namespace Numeral

/-- The leading digits, which may not be missing, and the rest. -/
def digits? (cs : List Char) : Option (List Char × List Char) :=
  match cs.takeWhile Char.isDigit with
  | [] => none
  | ds => some (ds, cs.dropWhile Char.isDigit)

/-- The fraction after a point, if there is one, and the rest. -/
def fraction? : List Char → Option (Option (List Char) × List Char)
  | '.' :: cs => (digits? cs).map fun r => (some r.1, r.2)
  | cs => some (none, cs)

/-- The exponent up to the end, if there is one. -/
def exponent? : List Char → Option (Option (Bool × List Char))
  | [] => some none
  | e :: cs =>
    if e = 'e' ∨ e = 'E' then
      let (negative, cs) := match cs with
        | '-' :: r => (true, r)
        | '+' :: r => (false, r)
        | r => (false, r)
      match digits? cs with
      | some (ds, []) => some (some (negative, ds))
      | _ => none
    else none

/-- Reads a numeral that fills the whole text. A whole part of more than one digit does not
begin with a zero. -/
def ofChars? (cs : List Char) : Option Numeral := do
  let (negative, cs) := match cs with
    | '-' :: r => (true, r)
    | r => (false, r)
  let (whole, cs) ← digits? cs
  if 1 < whole.length ∧ whole.head? = some '0' then none
  let (fraction, cs) ← fraction? cs
  let exponent ← exponent? cs
  return ⟨negative, whole, fraction, exponent⟩

/-! ## The value of a numeral -/

/-- Takes digits into a significand as long as it fits 64 bits. The rest comes back. -/
def absorb (n : Nat) : List Char → Nat × List Char
  | [] => (n, [])
  | d :: ds =>
    let next := 10 * n + (d.toNat - 48)
    if next < Nat.pow 2 64 then absorb next ds else (n, d :: ds)

/-- The double of a numeral, unless it is beyond the largest. A significand of 64 bits is
gathered and scaled by the power of ten that is left: whole digits that do not fit raise the
power, and digits of the fraction that do not fit are dropped. -/
def real? (n : Numeral) : Option Binary64 := do
  let (s, wholeRest) := absorb 0 n.whole
  let fraction := n.fraction.getD []
  let (s, fractionRest) := absorb s fraction
  let written : Int := match n.exponent with
    | none => 0
    | some (negative, ds) => if negative then -(digitsValue ds : Int) else digitsValue ds
  let e := written + wholeRest.length - (fraction.length - fractionRest.length : Nat)
  (← Binary64.nearest s 1).scaled e

/-- The number of a numeral, unless it is beyond the largest double. Minus zero is a double. -/
def value? (n : Numeral) : Option Number :=
  let real := n.real?.map (Number.real n.negative)
  if n.fraction.isSome ∨ n.exponent.isSome then real
  else
    let k := digitsValue n.whole
    if n.negative then if 0 < k ∧ k ≤ Nat.pow 2 63 then some (.integer (-k)) else real
    else if k < Nat.pow 2 64 then some (.integer k) else real

end Numeral

/-! ## The text of a number -/

/-- The decimal exponents that are written without an exponent: from 0.00001 to
1000000000000000.0. -/
def plainExponents (e : Int) : Bool := -5 ≤ e && e ≤ 15

/-- A decimal with a point and at least one digit on both sides of it, if its exponent is
small, and with one digit before the point and an exponent if not. -/
def writeDecimal (d : Decimal) : List Char :=
  let e := d.exponent - 1
  if plainExponents e then
    match d.exponent with
    | .ofNat (k + 1) =>
      let whole := d.digits.take (k + 1)
      let fraction := d.digits.drop (k + 1)
      whole ++ List.replicate (k + 1 - whole.length) '0' ++ '.' ::
        (if fraction.isEmpty then ['0'] else fraction)
    | small => ['0', '.'] ++ List.replicate small.natAbs '0' ++ d.digits
  else
    let mantissa := match d.digits with
      | first :: second :: rest => first :: '.' :: second :: rest
      | ds => ds
    mantissa ++ 'e' :: (if e < 0 then '-' else '+') :: Nat.toDigits 10 e.natAbs

/-- The text of a number. A double is written with the fewest digits that read back. -/
def Number.write : Number → List Char
  | .integer (.ofNat n) => Nat.toDigits 10 n
  | .integer (.negSucc n) => '-' :: Nat.toDigits 10 (n + 1)
  | .real negative x =>
    let text := if x.isZero then ['0', '.', '0'] else writeDecimal x.shortest
    if negative then '-' :: text else text

end RuleFields.Json
