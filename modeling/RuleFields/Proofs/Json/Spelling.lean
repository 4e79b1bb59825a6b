-- The laws of the scanner: a text that spells a list of tokens, with blanks
-- wherever they may stand, is read as these tokens.
import RuleFields.Proofs.Json.Numerals

namespace RuleFields.Json

/-! ## Texts in quotes -/

/-- The characters write these pieces inside quotes. -/
inductive Piece.Written : List Piece → List Char → Prop
  | nil : Written [] []
  | plain {c : Char} {ps : List Piece} {cs : List Char} (hq : c ≠ '"') (hb : c ≠ '\\')
      (hc : 0x20 ≤ c.toNat) (h : Written ps cs) : Written (.char c :: ps) (c :: cs)
  | escape {e c : Char} {ps : List Piece} {cs : List Char} (he : escaped? e = some c)
      (h : Written ps cs) : Written (.char c :: ps) ('\\' :: e :: cs)
  | unit {c₁ c₂ c₃ c₄ : Char} {n₁ n₂ n₃ n₄ : Nat} {ps : List Piece} {cs : List Char}
      (h₁ : hexValue? c₁ = some n₁) (h₂ : hexValue? c₂ = some n₂) (h₃ : hexValue? c₃ = some n₃)
      (h₄ : hexValue? c₄ = some n₄) (h : Written ps cs) :
      Written (.unit (16 * (16 * (16 * n₁ + n₂) + n₃) + n₄) :: ps)
        ('\\' :: 'u' :: c₁ :: c₂ :: c₃ :: c₄ :: cs)

/-! ## Tokens -/

/-- No character of this kind comes next. -/
def Ends (kind : Char → Bool) (rest : List Char) : Prop := ∀ c ∈ rest.head?, kind c = false

/-- The characters spell these tokens. A word or a numeral must end where the next token
begins. -/
inductive Spelled : List Token → List Char → Prop
  | nil : Spelled [] []
  | blank {c : Char} {ts : List Token} {rest : List Char} (hc : isBlank c = true)
      (h : Spelled ts rest) : Spelled ts (c :: rest)
  | punctuation {c : Char} {t : Token} {ts : List Token} {rest : List Char}
      (ht : punctuation? c = some t) (h : Spelled ts rest) : Spelled (t :: ts) (c :: rest)
  | word {c : Char} {cs : List Char} {t : Token} {ts : List Token} {rest : List Char}
      (hcs : ∀ x ∈ c :: cs, isWordChar x = true) (ht : word? (c :: cs) = some t)
      (hend : Ends isWordChar rest) (h : Spelled ts rest) : Spelled (t :: ts) (c :: cs ++ rest)
  | numeral {n : Numeral} {cs : List Char} {ts : List Token} {rest : List Char}
      (hn : n.Written cs) (hend : Ends isNumeralChar rest) (h : Spelled ts rest) :
      Spelled (.number n.value? :: ts) (cs ++ rest)
  | string {ps : List Piece} {cs : List Char} {ts : List Token} {rest : List Char}
      (hps : Piece.Written ps cs) (h : Spelled ts rest) :
      Spelled (.string ((Piece.join ps).map String.ofList) :: ts) ('"' :: cs ++ '"' :: rest)

/-! ## How a token begins -/

theorem step_between_blank {c : Char} (h : isBlank c = true) :
    Mode.step .between c = some (.between, []) := by
  rw [Mode.step, Mode.begin, if_pos h]

theorem step_between_quote : Mode.step .between '"' = some (.quoted [], []) := rfl

theorem step_between_punctuation {c : Char} {t : Token} (h : punctuation? c = some t) :
    Mode.step .between c = some (.between, [t]) := by
  have hc : c = '[' ∨ c = ']' ∨ c = '\x7b' ∨ c = '\x7d' ∨ c = ',' ∨ c = ':' := by
    unfold punctuation? at h
    repeat' split at h
    all_goals simp_all
  rcases hc with rfl | rfl | rfl | rfl | rfl | rfl <;> cases h <;> rfl

theorem toNat_of_isWordChar {c : Char} (h : isWordChar c = true) :
    97 ≤ c.toNat ∧ c.toNat ≤ 122 := by
  simp only [isWordChar, Bool.and_eq_true, decide_eq_true_eq] at h
  exact h

theorem step_between_word {c : Char} (h : isWordChar c = true) :
    Mode.step .between c = some (.word [c], []) := by
  obtain ⟨hlow, hhigh⟩ := toNat_of_isWordChar h
  have hne : ∀ d : Char, d.toNat < 97 → c ≠ d := by
    rintro d hd rfl
    omega
  have hblank : isBlank c = false := by
    simp [isBlank, hne ' ' (by decide), hne '\t' (by decide), hne '\n' (by decide),
      hne '\r' (by decide)]
  have hdigit : c.isDigit = false := by
    rw [← Bool.not_eq_true, Char.isDigit_iff_toNat]
    rintro ⟨-, hd⟩
    have hd' : c.toNat ≤ 57 := hd
    omega
  rw [Mode.step, Mode.begin]
  simp [hblank, hne '"' (by decide), hdigit, hne '-' (by decide), h]

theorem step_between_numeral {c : Char} (h : (c.isDigit || c = '-') = true) :
    Mode.step .between c = some (.numeral [c], []) := by
  have hblank : isBlank c = false := by
    rw [← Bool.not_eq_true]
    intro hb
    simp only [isBlank, Bool.or_eq_true, decide_eq_true_eq] at hb
    rcases hb with ((rfl | rfl) | rfl) | rfl <;> revert h <;> decide
  have hquote : c ≠ '"' := by
    rintro rfl
    revert h
    decide
  rw [Mode.step, Mode.begin, if_neg (by simp [hblank]), if_neg hquote, if_pos h]

/-! ## How a token ends -/

/-- One more character of the text. -/
theorem scanFrom_cons (m : Mode) (c : Char) (rest : List Char) :
    Token.scanFrom m (c :: rest) =
      (m.step c).bind fun r => (r.2 ++ ·) <$> Token.scanFrom r.1 rest := by
  rw [Token.scanFrom]
  cases m.step c with
  | none => rfl
  | some r =>
    cases h : Token.scanFrom r.1 rest with
    | none => simp [h]
    | some ts => simp [h]

/-- A character that completes no token. -/
theorem scanFrom_of_step {m : Mode} (m' : Mode) {c : Char} (h : m.step c = some (m', []))
    (rest : List Char) : Token.scanFrom m (c :: rest) = Token.scanFrom m' rest := by
  rw [scanFrom_cons, h]
  simp

/-- The character after a token ends it, and begins what comes next. -/
theorem scanFrom_of_endWith {m : Mode} {t : Token} {c : Char} (rest : List Char)
    (h : m.step c = Mode.endWith (some t) c) :
    Token.scanFrom m (c :: rest) = (t :: ·) <$> Token.scanFrom .between (c :: rest) := by
  rw [scanFrom_cons, scanFrom_cons, h, Mode.step]
  cases hc : Mode.begin c with
  | none => simp [Mode.endWith, hc]
  | some r => simp [Mode.endWith, hc, Function.comp_def]

/-- A token that is ended by any character outside of its kind, or by the end of the text. -/
theorem scanFrom_ended {m : Mode} {kind : Char → Bool} {t : Token} {rest : List Char}
    (hfinish : m.finish = some [t])
    (hstep : ∀ c, kind c = false → m.step c = Mode.endWith (some t) c) (hend : Ends kind rest) :
    Token.scanFrom m rest = (t :: ·) <$> Token.scanFrom .between rest := by
  cases rest with
  | nil => exact hfinish
  | cons c rest => exact scanFrom_of_endWith rest (hstep c (hend c rfl))

/-- A token of characters of one kind, which goes on until a character of another kind. -/
theorem scanFrom_run {mode : List Char → Mode} {kind : Char → Bool}
    {token? : List Char → Option Token}
    (hgoesOn : ∀ read c, kind c = true → (mode read).step c = some (mode (c :: read), []))
    (hstops : ∀ read c, kind c = false →
      (mode read).step c = Mode.endWith (token? read.reverse) c)
    (hfinish : ∀ read, (mode read).finish = (token? read.reverse).map ([·]))
    (read : List Char) {cs rest : List Char} {t : Token} (hcs : ∀ x ∈ cs, kind x = true)
    (ht : token? (read.reverse ++ cs) = some t) (hend : Ends kind rest) :
    Token.scanFrom (mode read) (cs ++ rest) = (t :: ·) <$> Token.scanFrom .between rest := by
  induction cs generalizing read with
  | nil =>
    rw [List.append_nil] at ht
    refine scanFrom_ended ?_ (fun c hc => ?_) hend
    · rw [hfinish, ht]
      rfl
    · rw [hstops read c hc, ht]
  | cons c cs ih =>
    have hrest := ih (c :: read) (fun x hx => hcs x (List.mem_cons_of_mem _ hx))
      (by simpa using ht)
    rw [List.cons_append, scanFrom_of_step _ (hgoesOn read c (hcs c List.mem_cons_self)), hrest]

theorem scanFrom_word (read : List Char) {cs rest : List Char} {t : Token}
    (hcs : ∀ x ∈ cs, isWordChar x = true) (ht : word? (read.reverse ++ cs) = some t)
    (hend : Ends isWordChar rest) :
    Token.scanFrom (.word read) (cs ++ rest) = (t :: ·) <$> Token.scanFrom .between rest := by
  refine scanFrom_run ?_ ?_ (fun _ => rfl) read hcs ht hend
  · intro read c hc
    rw [Mode.step, if_pos hc]
  · intro read c hc
    simp [Mode.step, hc]

theorem scanFrom_numeral (read : List Char) {cs rest : List Char} {t : Token}
    (hcs : ∀ x ∈ cs, isNumeralChar x = true) (ht : numeral? (read.reverse ++ cs) = some t)
    (hend : Ends isNumeralChar rest) :
    Token.scanFrom (.numeral read) (cs ++ rest) = (t :: ·) <$> Token.scanFrom .between rest := by
  refine scanFrom_run ?_ ?_ (fun _ => rfl) read hcs ht hend
  · intro read c hc
    rw [Mode.step, if_pos hc]
  · intro read c hc
    simp [Mode.step, hc]

theorem scanFrom_quoted (read : List Piece) {ps : List Piece} {cs : List Char}
    (h : Piece.Written ps cs) (rest : List Char) :
    Token.scanFrom (.quoted read) (cs ++ '"' :: rest) =
      (.string ((Piece.join (read.reverse ++ ps)).map String.ofList) :: ·) <$>
        Token.scanFrom .between rest := by
  induction h generalizing read with
  | nil =>
    rw [List.nil_append, List.append_nil, scanFrom_cons]
    rfl
  | @plain c ps cs hq hb hc _ ih =>
    have hstep : Mode.step (.quoted read) c = some (.quoted (.char c :: read), []) := by
      rw [Mode.step, if_neg hq, if_neg hb, if_neg (by omega)]
    rw [List.cons_append, scanFrom_of_step _ hstep]
    simpa using ih (.char c :: read)
  | @escape e c ps cs he _ ih =>
    have hu : e ≠ 'u' := by
      rintro rfl
      cases he
    have hstep : Mode.step (.escape read) e = some (.quoted (.char c :: read), []) := by
      rw [Mode.step, if_neg hu, he]
      rfl
    rw [List.cons_append, List.cons_append, scanFrom_of_step (.escape read) rfl,
      scanFrom_of_step _ hstep]
    simpa using ih (.char c :: read)
  | @unit c₁ c₂ c₃ c₄ n₁ n₂ n₃ n₄ ps cs h₁ h₂ h₃ h₄ _ ih =>
    have hfirst : Mode.step (.unit read 4 0) c₁ = some (.unit read 3 n₁, []) := by
      simp [Mode.step, h₁]
    have hsecond : Mode.step (.unit read 3 n₁) c₂ = some (.unit read 2 (16 * n₁ + n₂), []) := by
      simp [Mode.step, h₂]
    have hthird : Mode.step (.unit read 2 (16 * n₁ + n₂)) c₃ =
        some (.unit read 1 (16 * (16 * n₁ + n₂) + n₃), []) := by
      simp [Mode.step, h₃]
    have hlast : Mode.step (.unit read 1 (16 * (16 * n₁ + n₂) + n₃)) c₄ =
        some (.quoted (.unit (16 * (16 * (16 * n₁ + n₂) + n₃) + n₄) :: read), []) := by
      simp [Mode.step, h₄]
    simp only [List.cons_append]
    rw [scanFrom_of_step (.escape read) rfl, scanFrom_of_step (.unit read 4 0) rfl,
      scanFrom_of_step _ hfirst, scanFrom_of_step _ hsecond, scanFrom_of_step _ hthird,
      scanFrom_of_step _ hlast]
    simpa using ih (.unit (16 * (16 * (16 * n₁ + n₂) + n₃) + n₄) :: read)

/-! ## Whole texts -/

/-- A text is read as the tokens that it spells. -/
theorem scan?_of_spelled {ts : List Token} {cs : List Char} (h : Spelled ts cs) :
    Token.scan? cs = some ts := by
  unfold Token.scan?
  induction h with
  | nil => rfl
  | blank hc _ ih =>
    rw [scanFrom_of_step _ (step_between_blank hc), ih]
  | punctuation ht _ ih =>
    rw [scanFrom_cons, step_between_punctuation ht]
    simp [ih]
  | @word c cs t ts rest hcs ht hend _ ih =>
    have hrest : ∀ x ∈ cs, isWordChar x = true := fun x hx => hcs x (List.mem_cons_of_mem _ hx)
    rw [List.cons_append, scanFrom_of_step _ (step_between_word (hcs c List.mem_cons_self)),
      scanFrom_word [c] hrest ht hend, ih]
    rfl
  | @numeral n cs ts rest hn hend _ ih =>
    obtain ⟨c, cs, rfl, hc, hcs⟩ := Numeral.exists_cons_of_written hn
    have ht : numeral? (c :: cs) = some (.number n.value?) := by
      rw [numeral?, Numeral.ofChars?_of_written hn, Option.map_some]
    rw [List.cons_append, scanFrom_of_step _ (step_between_numeral hc),
      scanFrom_numeral [c] hcs ht hend, ih]
    rfl
  | @string ps cs ts rest hps _ ih =>
    rw [List.cons_append, scanFrom_of_step _ step_between_quote, scanFrom_quoted [] hps, ih]
    rfl

end RuleFields.Json
