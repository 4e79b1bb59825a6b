-- Base64 with the alphabet for addresses and file names, without padding:
-- three bytes are written as four digits of six bits.

namespace RuleFields.Base64Url

/-- The digit of a value below 64. -/
def digit (n : Nat) : Char :=
  if n < 26 then Char.ofNat (65 + n)
  else if n < 52 then Char.ofNat (71 + n)
  else if n < 62 then Char.ofNat (n - 4)
  else if n = 62 then '-'
  else '_'

/-- The digits of a list of bytes. One byte left over takes two digits, two take three. -/
def encode : List UInt8 → List Char
  | a :: b :: c :: rest =>
    let n := a.toNat * 65536 + b.toNat * 256 + c.toNat
    digit (n / 262144) :: digit (n / 4096 % 64) :: digit (n / 64 % 64) :: digit (n % 64) ::
      encode rest
  | [a, b] =>
    let n := a.toNat * 65536 + b.toNat * 256
    [digit (n / 262144), digit (n / 4096 % 64), digit (n / 64 % 64)]
  | [a] =>
    let n := a.toNat * 65536
    [digit (n / 262144), digit (n / 4096 % 64)]
  | [] => []

/-- The value of a digit. -/
def digitValue? (c : Char) : Option Nat :=
  if 'A' ≤ c ∧ c ≤ 'Z' then some (c.toNat - 65)
  else if 'a' ≤ c ∧ c ≤ 'z' then some (c.toNat - 71)
  else if '0' ≤ c ∧ c ≤ '9' then some (c.toNat + 4)
  else if c = '-' then some 62
  else if c = '_' then some 63
  else none

/-- The bytes that a list of digits stands for. A digit that is left over alone is refused, and so
are bits that are left over and not zero: no list of bytes is written so. -/
def decode? : List Char → Option (List UInt8)
  | p :: q :: r :: s :: rest => do
    let n := (← digitValue? p) * 262144 + (← digitValue? q) * 4096 + (← digitValue? r) * 64 +
      (← digitValue? s)
    return UInt8.ofNat (n / 65536) :: UInt8.ofNat (n / 256) :: UInt8.ofNat n :: (← decode? rest)
  | [p, q, r] => do
    let n := (← digitValue? p) * 4096 + (← digitValue? q) * 64 + (← digitValue? r)
    if n % 4 = 0 then some [UInt8.ofNat (n / 1024), UInt8.ofNat (n / 4)] else none
  | [p, q] => do
    let n := (← digitValue? p) * 64 + (← digitValue? q)
    if n % 16 = 0 then some [UInt8.ofNat (n / 16)] else none
  | [_] => none
  | [] => some []

theorem digitValue?_digit {n : Nat} (h : n < 64) : digitValue? (digit n) = some n := by
  have hall : ∀ i : Fin 64, digitValue? (digit i.val) = some i.val := by decide
  exact hall ⟨n, h⟩

end RuleFields.Base64Url
