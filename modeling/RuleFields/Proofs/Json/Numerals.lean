-- The laws of numerals: a numeral that is written by the grammar is read as its
-- parts.
import RuleFields.Json.Token

namespace RuleFields.Json.Numeral

/-! ## The grammar -/

/-- One digit or more. -/
def Digits (ds : List Char) : Prop := ds ≠ [] ∧ ∀ d ∈ ds, d.isDigit = true

/-- The characters write this fraction, or no fraction. -/
inductive FractionWritten : Option (List Char) → List Char → Prop
  | missing : FractionWritten none []
  | digits {ds : List Char} (h : Digits ds) : FractionWritten (some ds) ('.' :: ds)

/-- The characters write this exponent, or no exponent. -/
inductive ExponentWritten : Option (Bool × List Char) → List Char → Prop
  | missing : ExponentWritten none []
  | unsigned {e : Char} {ds : List Char} (he : e = 'e' ∨ e = 'E') (h : Digits ds) :
      ExponentWritten (some (false, ds)) (e :: ds)
  | plus {e : Char} {ds : List Char} (he : e = 'e' ∨ e = 'E') (h : Digits ds) :
      ExponentWritten (some (false, ds)) (e :: '+' :: ds)
  | minus {e : Char} {ds : List Char} (he : e = 'e' ∨ e = 'E') (h : Digits ds) :
      ExponentWritten (some (true, ds)) (e :: '-' :: ds)

/-- The characters of a sign. -/
def sign (negative : Bool) : List Char := if negative then ['-'] else []

/-- The characters write this numeral. No zero stands before another digit of the whole part. -/
inductive Written : Numeral → List Char → Prop
  | parts {negative : Bool} {whole : List Char} {fraction : Option (List Char)}
      {exponent : Option (Bool × List Char)} {fs es : List Char} (hwhole : Digits whole)
      (hzero : whole.head? = some '0' → whole.length = 1) (hf : FractionWritten fraction fs)
      (he : ExponentWritten exponent es) :
      Written ⟨negative, whole, fraction, exponent⟩ (sign negative ++ (whole ++ (fs ++ es)))

/-! ## Reading the parts -/

/-- Digits are read up to the first character that is none. -/
theorem digits?_append {ds rest : List Char} (h : Digits ds)
    (hrest : ∀ c ∈ rest.head?, c.isDigit = false) : digits? (ds ++ rest) = some (ds, rest) := by
  obtain ⟨hne, hall⟩ := h
  have hstop : rest.takeWhile Char.isDigit = [] ∧ rest.dropWhile Char.isDigit = rest := by
    cases rest with
    | nil => exact ⟨rfl, rfl⟩
    | cons c rest => simp [hrest c rfl]
  unfold digits?
  rw [List.takeWhile_append_of_pos hall, List.dropWhile_append_of_pos hall, hstop.1, hstop.2,
    List.append_nil]
  cases ds with
  | nil => exact absurd rfl hne
  | cons d ds => rfl

/-- A list of digits begins with one, and no sign is a digit. -/
theorem exists_cons_of_digits {ds : List Char} (h : Digits ds) :
    ∃ d rest, ds = d :: rest ∧ d.isDigit = true ∧ d ≠ '-' ∧ d ≠ '+' := by
  obtain ⟨hne, hall⟩ := h
  cases ds with
  | nil => exact absurd rfl hne
  | cons d rest =>
    have hd := hall d List.mem_cons_self
    refine ⟨d, rest, rfl, hd, ?_, ?_⟩
    · rintro rfl
      exact absurd hd (by decide)
    · rintro rfl
      exact absurd hd (by decide)

theorem exponent?_of_written {exponent : Option (Bool × List Char)} {es : List Char}
    (h : ExponentWritten exponent es) : exponent? es = some exponent := by
  have hread : ∀ {ds : List Char}, Digits ds → digits? ds = some (ds, []) := by
    intro ds hds
    have happend : digits? (ds ++ []) = some (ds, []) := digits?_append hds (by simp)
    rwa [List.append_nil] at happend
  cases h with
  | missing => rfl
  | @unsigned e ds he h =>
    obtain ⟨d, rest, rfl, -, hminus, hplus⟩ := exists_cons_of_digits h
    simp [exponent?, he, hminus, hplus, hread h]
  | plus he h => simp [exponent?, he, hread h]
  | minus he h => simp [exponent?, he, hread h]

/-- What is not a digit and not a point begins no fraction. -/
theorem fraction?_append {fraction : Option (List Char)} {fs rest : List Char}
    (h : FractionWritten fraction fs) (hdigit : ∀ c ∈ rest.head?, c.isDigit = false)
    (hpoint : ∀ c ∈ rest.head?, c ≠ '.') : fraction? (fs ++ rest) = some (fraction, rest) := by
  cases h with
  | missing =>
    cases rest with
    | nil => rfl
    | cons c rest => simp [fraction?, hpoint c rfl]
  | digits h => simp [fraction?, digits?_append h hdigit]

/-! ## Whole numerals -/

section
variable {fraction : Option (List Char)} {exponent : Option (Bool × List Char)}
  {fs es : List Char}

theorem head?_exponent (he : ExponentWritten exponent es) : ∀ c ∈ es.head?, c = 'e' ∨ c = 'E' := by
  cases he with
  | missing => simp
  | unsigned he _ => simpa using he
  | plus he _ => simpa using he
  | minus he _ => simpa using he

theorem isDigit_head?_exponent (he : ExponentWritten exponent es) :
    ∀ c ∈ es.head?, c.isDigit = false := by
  intro c hc
  rcases head?_exponent he c hc with rfl | rfl <;> rfl

theorem isDigit_head?_fraction (hf : FractionWritten fraction fs)
    (he : ExponentWritten exponent es) : ∀ c ∈ (fs ++ es).head?, c.isDigit = false := by
  cases hf with
  | missing => exact isDigit_head?_exponent he
  | digits h =>
    intro c hc
    obtain rfl : '.' = c := by simpa using hc
    rfl

end

/-- A numeral is read as its parts. -/
theorem ofChars?_of_written {n : Numeral} {cs : List Char} (h : n.Written cs) :
    ofChars? cs = some n := by
  cases h with
  | @parts negative whole fraction exponent fs es hwhole hzero hf he =>
    have hdigits := digits?_append hwhole (isDigit_head?_fraction hf he)
    have hpoint : ∀ c ∈ es.head?, c ≠ '.' := by
      intro c hc
      rcases head?_exponent he c hc with rfl | rfl <;> decide
    have hfraction := fraction?_append hf (isDigit_head?_exponent he) hpoint
    have hexponent := exponent?_of_written he
    have hone : ¬ (1 < whole.length ∧ whole.head? = some '0') := by
      rintro ⟨hlength, hhead⟩
      have hsingle := hzero hhead
      omega
    obtain ⟨d, rest, hcons, -, hminus, -⟩ := exists_cons_of_digits hwhole
    cases negative with
    | true =>
      simp [ofChars?, sign, hdigits, hone, hfraction, hexponent]
    | false =>
      subst hcons
      rw [List.cons_append] at hdigits
      simpa [ofChars?, sign, hminus, hdigits, hfraction, hexponent] using hone

/-! ## The characters of a numeral -/

theorem isNumeralChar_of_isDigit {c : Char} (h : c.isDigit = true) : isNumeralChar c = true := by
  simp [isNumeralChar, h]

theorem isNumeralChar_fraction {fraction : Option (List Char)} {fs : List Char}
    (h : FractionWritten fraction fs) : ∀ c ∈ fs, isNumeralChar c = true := by
  cases h with
  | missing => simp
  | digits h => exact List.forall_mem_cons.mpr ⟨rfl, fun c hc => isNumeralChar_of_isDigit (h.2 c hc)⟩

theorem isNumeralChar_exponent {exponent : Option (Bool × List Char)} {es : List Char}
    (h : ExponentWritten exponent es) : ∀ c ∈ es, isNumeralChar c = true := by
  have hmark : ∀ e : Char, e = 'e' ∨ e = 'E' → isNumeralChar e = true := by
    rintro e (rfl | rfl) <;> rfl
  cases h with
  | missing => simp
  | unsigned he h =>
    exact List.forall_mem_cons.mpr ⟨hmark _ he, fun c hc => isNumeralChar_of_isDigit (h.2 c hc)⟩
  | plus he h =>
    exact List.forall_mem_cons.mpr ⟨hmark _ he, List.forall_mem_cons.mpr
      ⟨rfl, fun c hc => isNumeralChar_of_isDigit (h.2 c hc)⟩⟩
  | minus he h =>
    exact List.forall_mem_cons.mpr ⟨hmark _ he, List.forall_mem_cons.mpr
      ⟨rfl, fun c hc => isNumeralChar_of_isDigit (h.2 c hc)⟩⟩

/-- A numeral begins with a digit or a minus, and goes on with the characters of numerals. -/
theorem exists_cons_of_written {n : Numeral} {cs : List Char} (h : n.Written cs) :
    ∃ c rest, cs = c :: rest ∧ (c.isDigit || c = '-') = true ∧
      ∀ x ∈ rest, isNumeralChar x = true := by
  cases h with
  | @parts negative whole fraction exponent fs es hwhole _ hf he =>
    have hall : ∀ x ∈ whole ++ (fs ++ es), isNumeralChar x = true := by
      intro x hx
      rcases List.mem_append.mp hx with hx | hx
      · exact isNumeralChar_of_isDigit (hwhole.2 x hx)
      · rcases List.mem_append.mp hx with hx | hx
        · exact isNumeralChar_fraction hf x hx
        · exact isNumeralChar_exponent he x hx
    cases negative with
    | true => exact ⟨'-', _, rfl, rfl, hall⟩
    | false =>
      obtain ⟨d, rest, rfl, hd, -, -⟩ := exists_cons_of_digits hwhole
      refine ⟨d, rest ++ (fs ++ es), rfl, by simp [hd], fun x hx => hall x ?_⟩
      exact List.mem_cons_of_mem d hx

end RuleFields.Json.Numeral
