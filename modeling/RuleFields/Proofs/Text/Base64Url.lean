-- The laws of the digits for addresses and file names. The digits of a list of
-- bytes are read back as the bytes, and four digits stand for three bytes
-- wherever the list is cut.
import RuleFields.Text.Base64Url

namespace RuleFields.Base64Url

/-! ## One digit -/

/-- The digits are the letters, the decimal digits, the hyphen and the underscore. -/
def IsDigit (c : Char) : Prop :=
  'A' ≤ c ∧ c ≤ 'Z' ∨ 'a' ≤ c ∧ c ≤ 'z' ∨ '0' ≤ c ∧ c ≤ '9' ∨ c = '-' ∨ c = '_'

instance (c : Char) : Decidable (IsDigit c) := inferInstanceAs (Decidable (_ ∨ _))

theorem isDigit_digit {n : Nat} (h : n < 64) : IsDigit (digit n) := by
  have hall : ∀ i : Fin 64, IsDigit (digit i.val) := by decide
  exact hall ⟨n, h⟩

/-- Each digit is one byte. -/
theorem utf8Size_digit {n : Nat} (h : n < 64) : (digit n).utf8Size = 1 := by
  have hall : ∀ i : Fin 64, (digit i.val).utf8Size = 1 := by decide
  exact hall ⟨n, h⟩

/-! ## The digits of a list of bytes -/

/-- Four digits for three bytes, and one digit more than bytes where one or two are left over. -/
theorem length_encode (bytes : List UInt8) :
    (encode bytes).length = (4 * bytes.length + 2) / 3 := by
  induction bytes using encode.induct with
  | case1 a b c rest ih =>
    simp only [encode, List.length_cons, ih]
    omega
  | case2 a b => simp [encode]
  | case3 a => simp [encode]
  | case4 => rfl

theorem exists_digit_of_mem_encode {bytes : List UInt8} {x : Char} (h : x ∈ encode bytes) :
    ∃ n < 64, x = digit n := by
  induction bytes using encode.induct with
  | case1 a b c rest ih =>
    have ha := a.toNat_lt
    have hb := b.toNat_lt
    have hc := c.toNat_lt
    simp only [encode, List.mem_cons] at h
    rcases h with h | h | h | h | h
    · exact ⟨_, by omega, h⟩
    · exact ⟨_, by omega, h⟩
    · exact ⟨_, by omega, h⟩
    · exact ⟨_, by omega, h⟩
    · exact ih h
  | case2 a b =>
    have ha := a.toNat_lt
    have hb := b.toNat_lt
    simp only [encode, List.mem_cons, List.not_mem_nil, or_false] at h
    rcases h with h | h | h
    · exact ⟨_, by omega, h⟩
    · exact ⟨_, by omega, h⟩
    · exact ⟨_, by omega, h⟩
  | case3 a =>
    have ha := a.toNat_lt
    simp only [encode, List.mem_cons, List.not_mem_nil, or_false] at h
    rcases h with h | h
    · exact ⟨_, by omega, h⟩
    · exact ⟨_, by omega, h⟩
  | case4 => simp [encode] at h

theorem isDigit_of_mem_encode {bytes : List UInt8} {x : Char} (h : x ∈ encode bytes) :
    IsDigit x := by
  obtain ⟨n, hn, rfl⟩ := exists_digit_of_mem_encode h
  exact isDigit_digit hn

theorem utf8Size_of_mem_encode {bytes : List UInt8} {x : Char} (h : x ∈ encode bytes) :
    x.utf8Size = 1 := by
  obtain ⟨n, hn, rfl⟩ := exists_digit_of_mem_encode h
  exact utf8Size_digit hn

/-- A cut between groups of four digits is a cut between groups of three bytes. -/
theorem take_encode (n : Nat) (bytes : List UInt8) :
    (encode bytes).take (4 * n) = encode (bytes.take (3 * n)) := by
  induction bytes using encode.induct generalizing n with
  | case1 a b c rest ih =>
    cases n with
    | zero => rfl
    | succ n =>
      rw [Nat.mul_succ, Nat.mul_succ]
      simp only [encode, List.take_succ_cons, ih]
  | case2 a b =>
    cases n with
    | zero => rfl
    | succ n => rfl
  | case3 a =>
    cases n with
    | zero => rfl
    | succ n => rfl
  | case4 =>
    cases n with
    | zero => rfl
    | succ n => rfl

/-! ## Reading the digits -/

/-- A byte is known by its value, whatever stands above it. -/
theorem ofNat_eq_of_mod {n : Nat} {b : UInt8} (h : n % 256 = b.toNat) : UInt8.ofNat n = b := by
  apply UInt8.toNat_inj.mp
  rw [UInt8.toNat_ofNat', h]

/-- A number of 24 bits is made up again of its groups of six. -/
theorem join_four (n : Nat) :
    n / 262144 * 262144 + n / 4096 % 64 * 4096 + n / 64 % 64 * 64 + n % 64 = n := by
  omega

theorem join_three (n : Nat) : n / 262144 * 4096 + n / 4096 % 64 * 64 + n / 64 % 64 = n / 64 := by
  omega

theorem join_two (n : Nat) : n / 262144 * 64 + n / 4096 % 64 = n / 4096 := by
  omega

/-- Four digits stand for the three bytes of a number of 24 bits. -/
theorem decode?_four {p q r s n : Nat} (hp : p < 64) (hq : q < 64) (hr : r < 64) (hs : s < 64)
    (hn : p * 262144 + q * 4096 + r * 64 + s = n) (rest : List Char) :
    decode? (digit p :: digit q :: digit r :: digit s :: rest) =
      (UInt8.ofNat (n / 65536) :: UInt8.ofNat (n / 256) :: UInt8.ofNat n :: ·) <$>
        decode? rest := by
  rw [decode?, digitValue?_digit hp, digitValue?_digit hq, digitValue?_digit hr,
    digitValue?_digit hs]
  simp only [Option.bind_eq_bind, Option.bind_some, hn]
  cases decode? rest <;> rfl

theorem decode?_three {p q r n : Nat} (hp : p < 64) (hq : q < 64) (hr : r < 64)
    (hn : p * 4096 + q * 64 + r = n) (hrest : n % 4 = 0) :
    decode? [digit p, digit q, digit r] = some [UInt8.ofNat (n / 1024), UInt8.ofNat (n / 4)] := by
  rw [decode?, digitValue?_digit hp, digitValue?_digit hq, digitValue?_digit hr]
  simp only [Option.bind_eq_bind, Option.bind_some, hn, if_pos hrest]

theorem decode?_two {p q n : Nat} (hp : p < 64) (hq : q < 64) (hn : p * 64 + q = n)
    (hrest : n % 16 = 0) : decode? [digit p, digit q] = some [UInt8.ofNat (n / 16)] := by
  rw [decode?, digitValue?_digit hp, digitValue?_digit hq]
  simp only [Option.bind_eq_bind, Option.bind_some, hn, if_pos hrest]

/-- The digits of a list of bytes stand for the bytes. -/
theorem decode?_encode (bytes : List UInt8) : decode? (encode bytes) = some bytes := by
  induction bytes using encode.induct with
  | case1 a b c rest ih =>
    have ha := a.toNat_lt
    have hb := b.toNat_lt
    have hc := c.toNat_lt
    rw [encode]
    generalize hn : a.toNat * 65536 + b.toNat * 256 + c.toNat = n
    have hfirst : UInt8.ofNat (n / 65536) = a := ofNat_eq_of_mod (by omega)
    have hsecond : UInt8.ofNat (n / 256) = b := ofNat_eq_of_mod (by omega)
    have hthird : UInt8.ofNat n = c := ofNat_eq_of_mod (by omega)
    rw [decode?_four (by omega) (by omega) (by omega) (by omega) (join_four n), ih, hfirst,
      hsecond, hthird]
    rfl
  | case2 a b =>
    have ha := a.toNat_lt
    have hb := b.toNat_lt
    rw [encode]
    generalize hn : a.toNat * 65536 + b.toNat * 256 = n
    have hrest : n / 64 % 4 = 0 := by omega
    have hfirst : UInt8.ofNat (n / 64 / 1024) = a := ofNat_eq_of_mod (by omega)
    have hsecond : UInt8.ofNat (n / 64 / 4) = b := ofNat_eq_of_mod (by omega)
    rw [decode?_three (by omega) (by omega) (by omega) (join_three n) hrest, hfirst, hsecond]
  | case3 a =>
    have ha := a.toNat_lt
    rw [encode]
    generalize hn : a.toNat * 65536 = n
    have hrest : n / 4096 % 16 = 0 := by omega
    have hfirst : UInt8.ofNat (n / 4096 / 16) = a := ofNat_eq_of_mod (by omega)
    rw [decode?_two (by omega) (by omega) (join_two n) hrest, hfirst]
  | case4 => rfl

/-- Two lists of bytes have the same digits only if they are one list. -/
theorem encode_inj {bytes bytes' : List UInt8} : encode bytes = encode bytes' ↔ bytes = bytes' := by
  refine ⟨?_, fun h => h ▸ rfl⟩
  intro h
  have hsame := decode?_encode bytes
  rw [h, decode?_encode bytes'] at hsame
  exact (Option.some.inj hsame).symm

end RuleFields.Base64Url
