-- The shortest decimal that reads back as a given double. A double stands for
-- all the numbers that round to it. Of the decimals among them the one with
-- the fewest digits is taken, and of those the one nearest to the double.
import RuleFields.Decimal.Binary64

namespace RuleFields

/-- The number `0.d₁d₂… * 10 ^ exponent`, with `d₁` not zero. -/
structure Decimal where
  digits : List Char
  exponent : Int
deriving DecidableEq, Repr

namespace Binary64

/-- The numbers that round to a double, times four and over a power of two: the double itself,
half the way down and half the way up. The neighbour below a power of two is only half as far
as the one above. -/
structure Neighbourhood where
  low : Nat
  middle : Nat
  high : Nat
  exponent : Int
  /-- The ends belong to the neighbourhood. -/
  closed : Bool

def neighbourhood (x : Binary64) : Neighbourhood :=
  let m := 4 * x.significand
  let down := if x.significand = Nat.pow 2 52 ∧ -1074 < x.exponent then 1 else 2
  ⟨m - down, m, m + 2, x.exponent - 2, x.significand % 2 == 0⟩

/-- The point of the grid `10 ^ e` that is nearest to the middle of those in the neighbourhood,
as a multiple of the step, if there is one. From the middle between two points the even one is
taken. -/
def gridPoint? (h : Neighbourhood) (e : Int) : Option Nat :=
  let scale (k : Nat) : Nat × Nat :=
    let (n, d) := timesTwoTo k 1 h.exponent
    timesTenTo n d (-e)
  let below := let (n, d) := scale h.middle; n / d
  let inside (p : Nat) : Bool :=
    let (ln, ld) := scale h.low
    let (hn, hd) := scale h.high
    if h.closed then ln ≤ p * ld ∧ p * hd ≤ hn else ln < p * ld ∧ p * hd < hn
  let nearer := let (n, d) := scale h.middle; roundQuotient n d
  if inside nearer then some nearer
  else if inside below then some below
  else if inside (below + 1) then some (below + 1)
  else none

/-- The place of the first digit of a ratio: the least `k` up to `start + fuel` from `start` on
with `num / den < 10 ^ k`. -/
def leadingPlace (num den : Nat) (start : Int) : Nat → Int
  | 0 => start
  | fuel + 1 =>
    let (n, d) := timesTenTo num den (-start)
    if n < d then start else leadingPlace num den (start + 1) fuel

/-- The shortest decimal of a double that is not zero. Seventeen digits are enough for every
double. -/
def shortest (x : Binary64) : Decimal :=
  let (num, den) := timesTwoTo x.significand 1 x.exponent
  let guess : Int := ((num.log2 : Int) - den.log2) * 3 / 10 - 2
  let place := leadingPlace num den guess 64
  let h := x.neighbourhood
  let hit := (List.range 17).findSome? fun (i : Nat) =>
    let e := place - (i + 1 : Nat)
    (gridPoint? h e).map fun p => (p, e)
  let (p, e) := hit.getD (0, 0)
  let digits := Nat.toDigits 10 p
  let kept := (digits.reverse.dropWhile (· == '0')).reverse
  ⟨kept, e + digits.length⟩

end Binary64

end RuleFields
