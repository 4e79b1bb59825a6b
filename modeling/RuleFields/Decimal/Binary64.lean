-- Finite doubles without their sign, and their arithmetic. Every operation
-- works on exact numbers and rounds once, to the nearest double, and from the
-- middle between two to the one with the even significand.

namespace RuleFields

/-- The quotient rounded to the nearest number. A half goes to the even neighbour. -/
def roundQuotient (num den : Nat) : Nat :=
  let q := num / den
  let twice := 2 * (num % den)
  if twice < den then q
  else if den < twice then q + 1
  else if q % 2 = 0 then q else q + 1

/-- A ratio times a power of two, as a ratio. -/
def timesTwoTo (num den : Nat) (e : Int) : Nat × Nat :=
  match e with
  | .ofNat k => (num * Nat.pow 2 k, den)
  | .negSucc k => (num, den * Nat.pow 2 (k + 1))

/-- A ratio times a power of ten, as a ratio. -/
def timesTenTo (num den : Nat) (e : Int) : Nat × Nat :=
  match e with
  | .ofNat k => (num * Nat.pow 10 k, den)
  | .negSucc k => (num, den * Nat.pow 10 (k + 1))

/-- The number `significand * 2 ^ exponent`. A significand has 53 bits, or fewer at the
smallest exponent, which is -1074. -/
structure Binary64 where
  significand : Nat
  exponent : Int
deriving DecidableEq, Repr

namespace Binary64

def zero : Binary64 := ⟨0, -1074⟩

def isZero (x : Binary64) : Bool := x.significand == 0

/-- The double nearest to `num / den`, if that is not beyond the largest. The exponent is the
one that leaves 53 bits before the point, as far as exponents go down. -/
def nearest (num den : Nat) : Option Binary64 :=
  if num = 0 then some zero
  else
    let guess : Int := max ((num.log2 : Int) - den.log2 - 53) (-1074)
    let fits (e : Int) : Bool := let (n, d) := timesTwoTo num den (-e); n < d * Nat.pow 2 53
    let e := if fits guess then guess else guess + 1
    let (n, d) := timesTwoTo num den (-e)
    let m := roundQuotient n d
    let x : Binary64 := if m = Nat.pow 2 53 then ⟨Nat.pow 2 52, e + 1⟩ else ⟨m, e⟩
    if x.exponent ≤ 971 then some x else none

def mul (x y : Binary64) : Option Binary64 :=
  let (n, d) := timesTwoTo (x.significand * y.significand) 1 (x.exponent + y.exponent)
  nearest n d

def div (x y : Binary64) : Option Binary64 :=
  let (n, d) := timesTwoTo x.significand y.significand (x.exponent - y.exponent)
  nearest n d

/-- The double nearest to a power of ten. -/
def tenTo (n : Nat) : Option Binary64 := nearest (Nat.pow 10 n) 1

/-- The largest power of ten that is a double. -/
def decimalExponentLimit : Nat := 308

/-- `x / 10 ^ n`. Powers of ten beyond the doubles are divided out in steps, and each step
rounds. -/
def dividedByTenTo (x : Binary64) (n : Nat) : Option Binary64 :=
  if _h : n ≤ decimalExponentLimit then do x.div (← tenTo n)
  else if x.isZero then some x
  else do
    let y ← x.div (← tenTo decimalExponentLimit)
    y.dividedByTenTo (n - decimalExponentLimit)
termination_by n
decreasing_by simp only [decimalExponentLimit] at *; omega

/-- `x * 10 ^ e`, if that is not beyond the largest double. -/
def scaled (x : Binary64) : Int → Option Binary64
  | .ofNat n =>
    if n ≤ decimalExponentLimit then do x.mul (← tenTo n)
    else if x.isZero then some x else none
  | .negSucc n => x.dividedByTenTo (n + 1)

end Binary64

end RuleFields
