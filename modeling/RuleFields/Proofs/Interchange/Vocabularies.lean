-- The laws of the vocabularies. A condition and a standard type are named by
-- one text, their id, wherever they stand: when a text is parsed, in what is
-- stored, and as the key of null. No other text names one, however close it
-- comes, and the error has the text as it was.
import RuleFields.Proofs.Classification
import RuleFields.Proofs.Interchange.Spellings

namespace RuleFields

open Json (Doc)

/-! ## Names in a stored text -/

/-- A document names one text at most. -/
theorem Json.Doc.Names.unique {s s' : String} {d : Doc} (h : d.Names s) (h' : d.Names s') :
    s = s' := by
  rw [← Doc.name?_eq_some_iff] at h h'
  exact Option.some.inj (h.symm.trans h')

namespace Format

variable {α : Type}

/-- A value is read from the texts that name it, in one of the two ways to name something, and
from no others. -/
def ReadsNames (f : Format α) (id : α → String) : Prop :=
  ∀ (d : Doc) (text : String), d.WrittenIn text →
    ∀ x, f.decode? text = some x ↔ d.Names (id x)

variable {f : Format α} {id : α → String}

theorem readsNames_of_ofDoc? (h : ∀ d x, f.ofDoc? d = some x ↔ d.Names (id x)) :
    f.ReadsNames id := by
  intro d text htext x
  rw [decode?_of_writtenIn f htext, h]

theorem ReadsNames.decode?_eq_some_iff (h : f.ReadsNames id) {d : Doc} {text s : String}
    (htext : d.WrittenIn text) (hd : d.Names s) (x : α) : f.decode? text = some x ↔ id x = s := by
  rw [h d text htext]
  refine ⟨fun hx => hx.unique hd, ?_⟩
  rintro rfl
  exact hd

theorem ReadsNames.decode?_string (h : f.ReadsNames id) (s : String) (x : α) :
    f.decode? (Json.string s).compact = some x ↔ id x = s :=
  h.decode?_eq_some_iff (Json.writtenIn_compact (.string s)) .text x

theorem ReadsNames.decode?_key (h : f.ReadsNames id) (s : String) (x : α) :
    f.decode? (Json.object [(s, .null)]).compact = some x ↔ id x = s := by
  have hfree : Json.NumberFree (.object [(s, .null)]) := by
    apply Json.NumberFree.object
    intro m hm
    obtain rfl := List.mem_singleton.mp hm
    exact .null
  exact h.decode?_eq_some_iff (Json.writtenIn_compact hfree) .key x

end Format

/-- No id needs an escape. -/
theorem Condition.encode_eq_quoted (c : Condition) : format.encode c = "\"" ++ c.id ++ "\"" := by
  cases c <;> rfl

theorem StandardType.encode_eq_quoted (t : StandardType) :
    format.encode t = "\"" ++ t.id ++ "\"" := by
  cases t <;> rfl

theorem Condition.readsNames_format : format.ReadsNames id :=
  Format.readsNames_of_ofDoc? fun _ _ => ofDoc?_eq_some_iff

theorem StandardType.readsNames_format : format.ReadsNames id :=
  Format.readsNames_of_ofDoc? fun _ _ => ofDoc?_eq_some_iff

/-! ## Parsing -/

namespace Condition

theorem parse_eq_ok_iff (s : String) (c : Condition) : parse s = .ok c ↔ c.id = s := by
  rw [← find?_id_eq_some_iff mem_all nodup_ids, parse]
  split
  · rename_i hc
    rw [hc, Except.ok.injEq, Option.some_inj]
  · rename_i hnone
    simp [hnone]

/-- Neither blanks nor a common beginning count. -/
example : parse " is" = .error ⟨" is"⟩ ∧ parse "isan" = .error ⟨"isan"⟩ ∧
    parse "" = .error ⟨""⟩ := by
  decide

theorem eq_of_parse_eq_error {s : String} {e : InvalidCondition} (h : parse s = .error e) :
    e = ⟨s⟩ := by
  unfold parse at h
  split at h
  · cases h
  · cases h
    rfl

end Condition

/-! ## Spellings that agree -/

/-- What a vocabulary makes of a text. The text is a value, be it parsed or read from what is
stored, exactly if it is the id of the value, and then it is what is shown and stored of the
value. A text that is no id is refused in every place. -/
structure SpelledAlike {α ε : Type} [ToString α] (id : α → String) (parse : String → Except ε α)
    (refusal : String → ε) (f : Format α) (s : String) : Prop where
  parsed : ∀ x, parse s = .ok x ↔ id x = s
  string : ∀ x, f.decode? (Json.string s).compact = some x ↔ id x = s
  key : ∀ x, f.decode? (Json.object [(s, .null)]).compact = some x ↔ id x = s
  unique : ∀ x y, id x = s → id y = s → x = y
  shown : ∀ x, id x = s → toString x = s
  stored : ∀ x, id x = s → f.encode x = "\"" ++ s ++ "\""
  refused : (∀ x, id x ≠ s) →
    parse s = .error (refusal s) ∧ f.decode? (Json.string s).compact = none ∧
      f.decode? (Json.object [(s, .null)]).compact = none

theorem spelledAlike_of_parse {α ε : Type} [ToString α] {id : α → String}
    {parse : String → Except ε α} {refusal : String → ε} {f : Format α}
    (hparse : ∀ s x, parse s = .ok x ↔ id x = s)
    (herror : ∀ s e, parse s = .error e → e = refusal s) (hread : f.ReadsNames id)
    (hshow : ∀ x, toString x = id x) (hstore : ∀ x, f.encode x = "\"" ++ id x ++ "\"")
    (s : String) : SpelledAlike id parse refusal f s where
  parsed := hparse s
  string := hread.decode?_string s
  key := hread.decode?_key s
  unique x y hx hy := by
    have hsame := (hparse s x).mpr hx
    rw [(hparse s y).mpr hy] at hsame
    exact (Except.ok.inj hsame).symm
  shown x hx := by rw [hshow, hx]
  stored x hx := by rw [hstore, hx]
  refused hnone := by
    refine ⟨?_, ?_, ?_⟩
    · cases hs : parse s with
      | ok x => exact absurd ((hparse s x).mp hs) (hnone x)
      | error e => rw [herror s e hs]
    · rw [Option.eq_none_iff_forall_ne_some]
      exact fun x hx => hnone x ((hread.decode?_string s x).mp hx)
    · rw [Option.eq_none_iff_forall_ne_some]
      exact fun x hx => hnone x ((hread.decode?_key s x).mp hx)

theorem Condition.spelledAlike (s : String) :
    SpelledAlike Condition.id Condition.parse InvalidCondition.mk Condition.format s :=
  spelledAlike_of_parse parse_eq_ok_iff (fun _ _ => eq_of_parse_eq_error) readsNames_format
    (fun _ => rfl) encode_eq_quoted s

theorem StandardType.spelledAlike (s : String) :
    SpelledAlike StandardType.id StandardType.parse (.unknownStandardType "")
      StandardType.format s :=
  spelledAlike_of_parse parse_eq_ok_iff (fun tag e h => ((parse_eq_error_iff tag e).mp h).2)
    readsNames_format (fun _ => rfl) encode_eq_quoted s

/-! ## The law -/

/-- A text is parsed as a condition, or read as one from a stored text or as the key of null,
exactly if it is the id of the condition, and so with standard types. It is the id of one at
most, which is shown and stored as that text. Nothing else that is stored is read as one. Any
other text is refused, and the error has it as it was. -/
theorem a_name_means_the_same_in_every_place (s : String) :
    SpelledAlike Condition.id Condition.parse InvalidCondition.mk Condition.format s ∧
      SpelledAlike StandardType.id StandardType.parse (.unknownStandardType "")
        StandardType.format s ∧
      (InvalidCondition.mk s).message = "Invalid condition: " ++ s ∧
      Condition.format.ReadsNames Condition.id ∧
      StandardType.format.ReadsNames StandardType.id :=
  ⟨Condition.spelledAlike s, StandardType.spelledAlike s, rfl, Condition.readsNames_format,
    StandardType.readsNames_format⟩

/-- The name of a condition has to be in lower case. -/
theorem upper_case_names_no_condition :
    (∀ c : Condition, c.id ≠ "IS") ∧ Condition.parse "IS" = .error ⟨"IS"⟩ ∧
      Condition.format.decode? (Json.string "IS").compact = none := by
  have hnone : ∀ c : Condition, c.id ≠ "IS" := by
    intro c
    cases c <;> decide
  obtain ⟨hspelled, -⟩ := a_name_means_the_same_in_every_place "IS"
  obtain ⟨hparse, hread, -⟩ := hspelled.refused hnone
  exact ⟨hnone, hparse, hread⟩

end RuleFields
