-- The texts that stand for something else when they are written in YAML
-- without quotes: null, a truth value, or a number.
import RuleFields.Json.Number

namespace RuleFields.Yaml

open Json (digitsValue)

def nullWords : List String := ["", "~", "null", "Null", "NULL"]

def boolWords : List String := ["true", "True", "TRUE", "false", "False", "FALSE"]

def infinityWords : List String := [".inf", ".Inf", ".INF"]

def nanWords : List String := [".nan", ".NaN", ".NAN"]

/-! ## Integers -/

/-- The value of a digit in a base up to sixteen. -/
def digitIn? (base : Nat) (c : Char) : Option Nat :=
  let value : Option Nat :=
    if '0' ≤ c ∧ c ≤ '9' then some (c.toNat - 48)
    else if 'a' ≤ c ∧ c ≤ 'f' then some (c.toNat - 87)
    else if 'A' ≤ c ∧ c ≤ 'F' then some (c.toNat - 55)
    else none
  value.filter (· < base)

/-- The value of one digit or more in a base up to sixteen. -/
def valueIn? (base : Nat) : List Char → Option Nat
  | [] => none
  | cs => cs.foldlM (fun n c => (digitIn? base c).map (base * n + ·)) 0

/-- The value of an integer with a mark for its base. -/
def marked? : List Char → Option Nat
  | '0' :: 'x' :: cs => valueIn? 16 cs
  | '0' :: 'o' :: cs => valueIn? 8 cs
  | '0' :: 'b' :: cs => valueIn? 2 cs
  | _ => none

/-- An integer with a mark for its base that fits 128 bits, with or without a sign. -/
def isMarkedInteger (s : List Char) : Bool :=
  match s with
  | '-' :: cs => (marked? cs).any (· ≤ Nat.pow 2 127)
  | '+' :: cs => (marked? cs).any (· < Nat.pow 2 128)
  | cs => (marked? cs).any (· < Nat.pow 2 128)

/-- Digits that begin with a zero which says nothing. No number is written so, but some readers
take it for one. -/
def isZeroLed (s : List Char) : Bool :=
  let digits := match s with
    | '-' :: cs | '+' :: cs => cs
    | cs => cs
  1 < digits.length && digits.head? == some '0' && digits.all Char.isDigit

/-! ## Decimals -/

/-- A decimal number as it is written, sign apart. -/
structure Decimals where
  whole : List Char
  fraction : List Char
  exponent : Int

/-- The exponent up to the end, if there is one. -/
def exponent? : List Char → Option Int
  | [] => some 0
  | e :: cs =>
    if e = 'e' ∨ e = 'E' then
      let (negative, digits) := match cs with
        | '-' :: r => (true, r)
        | '+' :: r => (false, r)
        | r => (false, r)
      if digits.isEmpty || !digits.all Char.isDigit then none
      else some (if negative then -(digitsValue digits : Int) else digitsValue digits)
    else none

/-- Reads a decimal number. Digits may be missing on one side of the point. -/
def Decimals.ofChars? (cs : List Char) : Option Decimals := do
  let whole := cs.takeWhile Char.isDigit
  let (fraction, rest) := match cs.dropWhile Char.isDigit with
    | '.' :: r => (r.takeWhile Char.isDigit, r.dropWhile Char.isDigit)
    | r => ([], r)
  guard (!whole.isEmpty || !fraction.isEmpty)
  return ⟨whole, fraction, ← exponent? rest⟩

/-- The number is not beyond the largest double. Only near that double is it worked out. -/
def Decimals.isFinite (d : Decimals) : Bool :=
  let digits := (d.whole ++ d.fraction).dropWhile (· == '0')
  let n := digitsValue digits
  let e := d.exponent - d.fraction.length
  let places := e + digits.length
  if n = 0 || places < 300 then true
  else if 310 < places then false
  else
    let (num, den) := timesTenTo n 1 e
    (Binary64.nearest num den).isSome

/-- A decimal number or infinity, with or without a sign, or what is not a number. -/
def isFloat (s : List Char) : Bool :=
  let isMagnitude (cs : List Char) : Bool :=
    infinityWords.contains (String.ofList cs) || (Decimals.ofChars? cs).any Decimals.isFinite
  match s with
  | '+' :: cs | '-' :: cs => isMagnitude cs
  | cs => isMagnitude cs || nanWords.contains (String.ofList cs)

/-! ## The rule -/

/-- Without quotes the text would be read as something else than a text. -/
def readsAsOther (s : List Char) : Bool :=
  let word := String.ofList s
  nullWords.contains word || boolWords.contains word || isMarkedInteger s || isZeroLed s ||
    isFloat s

end RuleFields.Yaml
