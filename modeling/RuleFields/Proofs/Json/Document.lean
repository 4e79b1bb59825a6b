-- The laws of the document machine: every document has a list of tokens, and
-- the machine makes the document of it.
import RuleFields.Json.Document

namespace RuleFields.Json.Doc

/-! ## The tokens of a document -/

mutual

/-- The tokens of a document, without what its author was free to add. -/
def tokens : Doc → List Token
  | null => [.null]
  | bool b => [.bool b]
  | number n => [.number n]
  | string s => [.string s]
  | array [] => [.openArray, .closeArray]
  | array (d :: rest) => .openArray :: d.tokens ++ itemTokens rest
  | object [] => [.openObject, .closeObject]
  | object ((k, d) :: rest) =>
    .openObject :: .string k :: .colon :: d.tokens ++ memberTokens rest

/-- The items after the first, and the end of the list. -/
def itemTokens : List Doc → List Token
  | [] => [.closeArray]
  | d :: rest => .comma :: d.tokens ++ itemTokens rest

/-- The members after the first, and the end of the object. -/
def memberTokens : List (Option String × Doc) → List Token
  | [] => [.closeObject]
  | (k, d) :: rest => .comma :: .string k :: .colon :: d.tokens ++ memberTokens rest

end

/-! ## The machine -/

theorem foldlM_step_cons {s : State} (s' : State) {t : Token} (h : s.step t = some s')
    (ts : List Token) : (t :: ts).foldlM State.step s = ts.foldlM State.step s' := by
  rw [List.foldlM_cons, h]
  rfl

/-- No document begins with the end of a list. -/
theorem tokens_head (d : Doc) : ∃ t ts, d.tokens = t :: ts ∧ t ≠ .closeArray := by
  cases d with
  | null => exact ⟨.null, [], rfl, by simp⟩
  | bool b => exact ⟨.bool b, [], rfl, by simp⟩
  | number n => exact ⟨.number n, [], rfl, by simp⟩
  | string s => exact ⟨.string s, [], rfl, by simp⟩
  | array items =>
    cases items with
    | nil => exact ⟨.openArray, _, rfl, by simp⟩
    | cons d rest => exact ⟨.openArray, _, rfl, by simp⟩
  | object members =>
    cases members with
    | nil => exact ⟨.openObject, _, rfl, by simp⟩
    | cons m rest => exact ⟨.openObject, _, rfl, by simp⟩

/-- The first item of a list is read like every other. -/
theorem foldlM_firstItem (d : Doc) (outer : List Frame) :
    d.tokens.foldlM State.step (.firstItem outer) =
      d.tokens.foldlM State.step (.value (.array [] :: outer)) := by
  obtain ⟨t, ts, ht, hne⟩ := tokens_head d
  have hstep : State.step (.firstItem outer) t = State.step (.value (.array [] :: outer)) t := by
    cases t with
    | closeArray => exact absurd rfl hne
    | _ => rfl
  rw [ht, List.foldlM_cons, List.foldlM_cons, hstep]

mutual

/-- After the tokens of a document the machine has the document. -/
theorem foldlM_tokens (d : Doc) (outer : List Frame) :
    d.tokens.foldlM State.step (.value outer) = some (State.put d outer) := by
  cases d with
  | null => rfl
  | bool b => rfl
  | number n => rfl
  | string s => rfl
  | array items =>
    cases items with
    | nil => rfl
    | cons d rest =>
      rw [tokens, List.cons_append, foldlM_step_cons (.firstItem outer) rfl,
        List.foldlM_append, foldlM_firstItem, foldlM_tokens d]
      exact foldlM_itemTokens rest [d] outer
  | object members =>
    cases members with
    | nil => rfl
    | cons m rest =>
      obtain ⟨k, d⟩ := m
      rw [tokens, List.cons_append, List.cons_append, List.cons_append,
        foldlM_step_cons (.firstKey outer) rfl,
        foldlM_step_cons (.colon [] k outer) rfl,
        foldlM_step_cons (.value (.object [] k :: outer)) rfl,
        List.foldlM_append, foldlM_tokens d]
      exact foldlM_memberTokens rest [(k, d)] outer

theorem foldlM_itemTokens (items before : List Doc) (outer : List Frame) :
    (itemTokens items).foldlM State.step (.afterItem before outer) =
      some (State.put (.array (before.reverse ++ items)) outer) := by
  cases items with
  | nil =>
    rw [List.append_nil]
    rfl
  | cons d rest =>
    rw [itemTokens, List.cons_append,
      foldlM_step_cons (.value (.array before :: outer)) rfl, List.foldlM_append,
      foldlM_tokens d]
    have hrest := foldlM_itemTokens rest (d :: before) outer
    rw [List.reverse_cons, List.append_assoc] at hrest
    exact hrest

theorem foldlM_memberTokens (members before : List (Option String × Doc)) (outer : List Frame) :
    (memberTokens members).foldlM State.step (.afterMember before outer) =
      some (State.put (.object (before.reverse ++ members)) outer) := by
  cases members with
  | nil =>
    rw [List.append_nil]
    rfl
  | cons m rest =>
    obtain ⟨k, d⟩ := m
    rw [memberTokens, List.cons_append, List.cons_append, List.cons_append,
      foldlM_step_cons (.key before outer) rfl,
      foldlM_step_cons (.colon before k outer) rfl,
      foldlM_step_cons (.value (.object before k :: outer)) rfl, List.foldlM_append,
      foldlM_tokens d]
    have hrest := foldlM_memberTokens rest ((k, d) :: before) outer
    rw [List.reverse_cons, List.append_assoc] at hrest
    exact hrest

end

/-- The tokens of a document are read as the document. -/
theorem ofTokens?_tokens (d : Doc) : ofTokens? d.tokens = some d := by
  unfold ofTokens?
  rw [foldlM_tokens]
  rfl

end RuleFields.Json.Doc
