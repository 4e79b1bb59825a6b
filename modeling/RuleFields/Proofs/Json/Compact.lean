-- The laws of the compact text: the text of a value without numbers is read
-- back as the document that writes the value.
import RuleFields.Proofs.Json.Document
import RuleFields.Proofs.Json.Spelling

namespace RuleFields.Json

/-! ## Texts in quotes -/

theorem hexValue?_hexDigit (n : Nat) : hexValue? (hexDigit n) = some (n % 16) := by
  have hall : ∀ i : Fin 16, hexValue? (Nat.digitChar i.val) = some i.val := by decide
  exact hall ⟨n % 16, Nat.mod_lt n (by decide)⟩

/-- An escape of four digits that is no surrogate stands for its character. -/
theorem join_unit {n : Nat} (h : n < 0xD800) (ps : List Piece) :
    Piece.join (.unit n :: ps) = (Char.ofNat n :: ·) <$> Piece.join ps := by
  have hhigh : isHighSurrogate n = false := by
    simp [isHighSurrogate]
    omega
  have hlow : isLowSurrogate n = false := by
    simp [isLowSurrogate]
    omega
  cases ps with
  | nil => simp [Piece.join, hhigh, hlow]
  | cons p ps => cases p <;> simp [Piece.join, hhigh, hlow]

/-- Inside quotes, a character is written as a backslash and one more character, as a backslash
and its number, or as itself. -/
theorem escapeChar_cases (c : Char) :
    (∃ e, escapeChar c = ['\\', e] ∧ escaped? e = some c) ∨
      (escapeChar c = ['\\', 'u', '0', '0', hexDigit (c.toNat / 16), hexDigit c.toNat] ∧
        c.toNat < 0x20) ∨
      (escapeChar c = [c] ∧ c ≠ '"' ∧ c ≠ '\\' ∧ 0x20 ≤ c.toNat) := by
  by_cases hletter : c ∈ ['"', '\\', '\x08', '\x0c', '\n', '\r', '\t']
  · left
    simp only [List.mem_cons, List.not_mem_nil, or_false] at hletter
    rcases hletter with rfl | rfl | rfl | rfl | rfl | rfl | rfl
    all_goals exact ⟨_, rfl, rfl⟩
  · right
    simp only [List.mem_cons, List.not_mem_nil, or_false, not_or] at hletter
    obtain ⟨hq, hb, hback, hfeed, hline, hreturn, htab⟩ := hletter
    unfold escapeChar
    rw [if_neg hq, if_neg hb, if_neg hback, if_neg hfeed, if_neg hline, if_neg hreturn,
      if_neg htab]
    by_cases hc : c.toNat < 0x20
    · rw [if_pos hc]
      exact Or.inl ⟨rfl, hc⟩
    · rw [if_neg hc]
      exact Or.inr ⟨rfl, hq, hb, by omega⟩

/-- An escaped character is a piece that stands for the character. -/
theorem written_escapeChar (c : Char) {ps : List Piece} {cs : List Char}
    (h : Piece.Written ps cs) :
    ∃ p, Piece.Written (p :: ps) (escapeChar c ++ cs) ∧
      Piece.join (p :: ps) = (c :: ·) <$> Piece.join ps := by
  rcases escapeChar_cases c with ⟨e, hescape, he⟩ | ⟨hescape, hc⟩ | ⟨hescape, hq, hb, hc⟩
  · rw [hescape]
    exact ⟨.char c, .escape he h, rfl⟩
  · have hzero : hexValue? '0' = some 0 := rfl
    have hwritten := Piece.Written.unit hzero hzero (hexValue?_hexDigit (c.toNat / 16))
      (hexValue?_hexDigit c.toNat) h
    have hvalue : 16 * (16 * (16 * 0 + 0) + c.toNat / 16 % 16) + c.toNat % 16 = c.toNat := by
      omega
    rw [hvalue] at hwritten
    rw [hescape]
    refine ⟨_, hwritten, ?_⟩
    rw [join_unit (by omega), Char.ofNat_toNat]
  · rw [hescape]
    exact ⟨.char c, .plain hq hb hc h, rfl⟩

theorem written_escaped (s : List Char) :
    ∃ ps, Piece.Written ps (s.flatMap escapeChar) ∧ Piece.join ps = some s := by
  induction s with
  | nil => exact ⟨[], .nil, rfl⟩
  | cons c s ih =>
    obtain ⟨ps, hps, hjoin⟩ := ih
    obtain ⟨p, hp, hc⟩ := written_escapeChar c hps
    exact ⟨p :: ps, by rw [List.flatMap_cons]; exact hp, by rw [hc, hjoin]; rfl⟩

theorem spelled_writeString (s : String) {ts : List Token} {rest : List Char}
    (h : Spelled ts rest) : Spelled (.string (some s) :: ts) (writeString s ++ rest) := by
  obtain ⟨ps, hps, hjoin⟩ := written_escaped s.toList
  have hs : (Piece.join ps).map String.ofList = some s := by simp [hjoin]
  have hspelled := Spelled.string hps h
  rw [hs] at hspelled
  simpa [writeString] using hspelled

/-! ## Values without numbers -/

/-- No number stands in the value. -/
inductive NumberFree : Json → Prop
  | null : NumberFree .null
  | bool (b : Bool) : NumberFree (.bool b)
  | string (s : String) : NumberFree (.string s)
  | array {items : List Json} (h : ∀ x ∈ items, NumberFree x) : NumberFree (.array items)
  | object {members : List (String × Json)} (h : ∀ m ∈ members, NumberFree m.2) :
      NumberFree (.object members)

@[simp] theorem numberFree_bool (b : Bool) : NumberFree (.bool b) := .bool b

@[simp] theorem numberFree_string (s : String) : NumberFree (.string s) := .string s

@[simp] theorem numberFree_array_iff {items : List Json} :
    NumberFree (.array items) ↔ ∀ x ∈ items, NumberFree x := by
  refine ⟨?_, .array⟩
  intro h
  cases h with
  | array h => exact h

@[simp] theorem numberFree_object_iff {members : List (String × Json)} :
    NumberFree (.object members) ↔ ∀ m ∈ members, NumberFree m.2 := by
  refine ⟨?_, .object⟩
  intro h
  cases h with
  | object h => exact h

/-- The text of a value spells the tokens of its document, whatever comes after it and ends
it. -/
def WellSpelled (j : Json) : Prop :=
  ∀ ts rest, Spelled ts rest → Ends isWordChar rest →
    Spelled (j.toDoc.tokens ++ ts) (j.write ++ rest)

/-! ## What may follow a value -/

theorem ends_punctuation {c : Char} {t : Token} (h : punctuation? c = some t) (rest : List Char) :
    Ends isWordChar (c :: rest) := by
  intro x hx
  obtain rfl : c = x := by simpa using hx
  rw [← Bool.not_eq_true]
  intro hword
  have hstep := step_between_word hword
  rw [step_between_punctuation h] at hstep
  simp at hstep

theorem ends_writeItems (items : List Json) (rest : List Char) :
    Ends isWordChar (writeItems items ++ rest) := by
  cases items with
  | nil => exact ends_punctuation (c := ']') rfl rest
  | cons x items => exact ends_punctuation (c := ',') rfl _

theorem ends_writeMembers (members : List (String × Json)) (rest : List Char) :
    Ends isWordChar (writeMembers members ++ rest) := by
  cases members with
  | nil => exact ends_punctuation (c := '\x7d') rfl rest
  | cons m members => exact ends_punctuation (c := ',') rfl _

/-! ## Lists and objects -/

theorem spelled_writeItems {items : List Json} (h : ∀ x ∈ items, WellSpelled x) {ts : List Token}
    {rest : List Char} (hrest : Spelled ts rest) :
    Spelled (Doc.itemTokens (docs items) ++ ts) (writeItems items ++ rest) := by
  induction items with
  | nil => exact .punctuation rfl hrest
  | cons x items ih =>
    have hitems := ih fun y hy => h y (List.mem_cons_of_mem x hy)
    have hx := h x List.mem_cons_self _ _ hitems (ends_writeItems items rest)
    simpa [docs, Doc.itemTokens, writeItems] using Spelled.punctuation (c := ',') rfl hx

/-- A member that a further text spells on from. -/
theorem spelled_member (k : String) {x : Json} (hx : WellSpelled x) {ts : List Token}
    {rest : List Char} (hrest : Spelled ts rest) (hend : Ends isWordChar rest) :
    Spelled (.string (some k) :: .colon :: (x.toDoc.tokens ++ ts))
      (writeString k ++ ':' :: (x.write ++ rest)) :=
  spelled_writeString k (.punctuation rfl (hx ts rest hrest hend))

theorem spelled_writeMembers {members : List (String × Json)}
    (h : ∀ m ∈ members, WellSpelled m.2) {ts : List Token} {rest : List Char}
    (hrest : Spelled ts rest) :
    Spelled (Doc.memberTokens (memberDocs members) ++ ts) (writeMembers members ++ rest) := by
  induction members with
  | nil => exact .punctuation rfl hrest
  | cons m members ih =>
    obtain ⟨k, x⟩ := m
    have hmembers := ih fun y hy => h y (List.mem_cons_of_mem _ hy)
    have hm := spelled_member k (h _ List.mem_cons_self) hmembers (ends_writeMembers members rest)
    simpa [memberDocs, Doc.memberTokens, writeMembers] using Spelled.punctuation (c := ',') rfl hm

theorem wellSpelled_of_numberFree {j : Json} (h : NumberFree j) : WellSpelled j := by
  induction h with
  | null =>
    intro ts rest hrest hend
    exact .word (List.all_eq_true.mp rfl) rfl hend hrest
  | bool b =>
    intro ts rest hrest hend
    cases b with
    | true => exact .word (List.all_eq_true.mp rfl) rfl hend hrest
    | false => exact .word (List.all_eq_true.mp rfl) rfl hend hrest
  | string s =>
    intro ts rest hrest _
    exact spelled_writeString s hrest
  | @array items _ ih =>
    intro ts rest hrest _
    cases items with
    | nil => exact .punctuation rfl (.punctuation rfl hrest)
    | cons x items =>
      have hitems := spelled_writeItems (fun y hy => ih y (List.mem_cons_of_mem x hy)) hrest
      have hx := ih x List.mem_cons_self _ _ hitems (ends_writeItems items rest)
      simpa [toDoc, docs, Doc.tokens, write] using Spelled.punctuation (c := '[') rfl hx
  | @object members _ ih =>
    intro ts rest hrest _
    cases members with
    | nil => exact .punctuation rfl (.punctuation rfl hrest)
    | cons m members =>
      obtain ⟨k, x⟩ := m
      have hmembers := spelled_writeMembers (fun y hy => ih y (List.mem_cons_of_mem _ hy)) hrest
      have hm := spelled_member k (ih _ List.mem_cons_self) hmembers
        (ends_writeMembers members rest)
      simpa [toDoc, memberDocs, Doc.tokens, write] using Spelled.punctuation (c := '\x7b') rfl hm

/-! ## Whole texts -/

/-- The text writes the document, with blanks wherever they may stand. -/
def Doc.WrittenIn (d : Doc) (text : String) : Prop := Spelled d.tokens text.toList

/-- A text is read as the document that it writes. -/
theorem Doc.read?_of_writtenIn {d : Doc} {text : String} (h : d.WrittenIn text) :
    read? text = some d := by
  unfold read?
  rw [scan?_of_spelled h]
  exact ofTokens?_tokens d

theorem writtenIn_compact {j : Json} (h : NumberFree j) : j.toDoc.WrittenIn j.compact := by
  have hspelled := wellSpelled_of_numberFree h [] [] .nil (fun c hc => by cases hc)
  rw [List.append_nil, List.append_nil] at hspelled
  unfold Doc.WrittenIn compact
  rw [String.toList_ofList]
  exact hspelled

/-- The compact text of a value without numbers is read back as the document of the value. -/
theorem read?_compact {j : Json} (h : NumberFree j) : Doc.read? j.compact = some j.toDoc :=
  Doc.read?_of_writtenIn (writtenIn_compact h)

end RuleFields.Json
