-- The laws of the classification. A tag names at most one standard type. The
-- type and the condition decide what is asked for, and only where references
-- are asked for does the lookup source count, so only there can it fail.
import RuleFields.Field
import RuleFields.Proofs.Traversal

namespace RuleFields

theorem Condition.isExistenceTest_eq_false_iff (c : Condition) :
    c.isExistenceTest = false ↔ c ≠ .exist ∧ c ≠ .notExist := by
  cases c <;> decide

namespace StandardType

/-! ## Tags -/

theorem parse_eq_ok_iff (tag : String) (t : StandardType) : parse tag = .ok t ↔ t.id = tag := by
  rw [← find?_id_eq_some_iff mem_all nodup_ids, parse]
  split
  · rename_i hu
    rw [hu, Except.ok.injEq, Option.some_inj]
  · rename_i hnone
    simp [hnone]

theorem parseFor_eq_ok_iff (field tag : String) (t : StandardType) :
    parseFor field tag = .ok t ↔ t.id = tag := by
  rw [← parse_eq_ok_iff, parseFor]
  cases parse tag <;> simp [Except.mapError]

theorem parse_eq_error_iff (tag : String) (e : FieldError) :
    parse tag = .error e ↔ (∀ t : StandardType, t.id ≠ tag) ∧ e = .unknownStandardType "" tag := by
  simp only [ne_eq, ← parse_eq_ok_iff]
  unfold parse
  split
  · simp
  · simp [eq_comm]

/-- The error names the field and has the tag as it was declared. -/
theorem parseFor_eq_error_iff (field tag : String) (e : FieldError) :
    parseFor field tag = .error e ↔
      (∀ t : StandardType, t.id ≠ tag) ∧ e = .unknownStandardType field tag := by
  unfold parseFor
  cases hparse : parse tag with
  | ok t =>
    have hknown := (parse_eq_ok_iff tag t).mp hparse
    refine ⟨?_, ?_⟩
    · intro h
      cases h
    · rintro ⟨hall, -⟩
      exact absurd hknown (hall t)
  | error e' =>
    obtain ⟨hall, rfl⟩ := (parse_eq_error_iff tag e').mp hparse
    refine ⟨?_, ?_⟩
    · rintro ⟨rfl⟩
      exact ⟨hall, rfl⟩
    · rintro ⟨-, rfl⟩
      rfl

/-! ## What a condition asks for -/

/-- The values of the type are text, or are made of texts. -/
def HoldsText (t : StandardType) : Prop := t = .text ∨ t = .textList ∨ t = .textMap

/-- The values of the type are references, or their absence. -/
def HoldsReferences (t : StandardType) : Prop := t = .phid ∨ t = .phidNullable ∨ t = .phidList

/-- The condition asks for nothing: the type has only two values, or the condition tests whether
there are references at all. -/
def AsksNothing (t : StandardType) (c : Condition) : Prop :=
  t = .bool ∨ t = .phidBool ∨ t.HoldsReferences ∧ (c = .exist ∨ c = .notExist)

/-- The condition asks for references. -/
def AsksReferences (t : StandardType) (c : Condition) : Prop :=
  t.HoldsReferences ∧ c ≠ .exist ∧ c ≠ .notExist

/-- One of three things is asked for. -/
theorem asks_cases (t : StandardType) (c : Condition) :
    t.AsksNothing c ∨ t.HoldsText ∨ t.AsksReferences c := by
  by_cases hc : c = .exist ∨ c = .notExist
  · cases t <;> simp [AsksNothing, HoldsText, HoldsReferences, hc]
  · have hne : c ≠ .exist ∧ c ≠ .notExist := not_or.mp hc
    cases t <;> simp [AsksNothing, HoldsText, AsksReferences, HoldsReferences, hne]

theorem not_asksReferences_of_asksNothing {t : StandardType} {c : Condition}
    (h : t.AsksNothing c) : ¬ t.AsksReferences c := by
  rintro ⟨hr, hexist, hnot⟩
  rcases h with rfl | rfl | ⟨-, hc | hc⟩
  · simp [HoldsReferences] at hr
  · simp [HoldsReferences] at hr
  · exact hexist hc
  · exact hnot hc

theorem not_asksReferences_of_holdsText {t : StandardType} (h : t.HoldsText) (c : Condition) :
    ¬ t.AsksReferences c := by
  rintro ⟨hr, -, -⟩
  rcases h with rfl | rfl | rfl <;> simp [HoldsReferences] at hr

/-- Each type with references takes a condition that asks for them. -/
theorem exists_condition_asksReferences {t : StandardType} (h : t.HoldsReferences) :
    ∃ c ∈ t.conditions, t.AsksReferences c := by
  rcases h with rfl | rfl | rfl
  · exact ⟨.isAny, by decide, Or.inl rfl, by decide, by decide⟩
  · exact ⟨.isAny, by decide, Or.inr (Or.inl rfl), by decide, by decide⟩
  · exact ⟨.includeAll, by decide, Or.inr (Or.inr rfl), by decide, by decide⟩

/-! ## Shapes -/

section
variable {m : Type → Type} [Monad m] {t : StandardType} {c : Condition}

theorem shapeFor_of_asksNothing (h : t.AsksNothing c) (lookup : m LookupSource) :
    t.shapeFor c lookup = pure .empty := by
  rcases h with rfl | rfl | ⟨rfl | rfl | rfl, rfl | rfl⟩ <;> rfl

theorem shapeFor_of_holdsText (h : t.HoldsText) (lookup : m LookupSource) :
    t.shapeFor c lookup = pure .text := by
  rcases h with rfl | rfl | rfl <;> rfl

theorem shapeFor_of_asksReferences (h : t.AsksReferences c) (lookup : m LookupSource) :
    t.shapeFor c lookup = .tokenizer <$> lookup := by
  obtain ⟨ht, hc⟩ := h
  rw [← c.isExistenceTest_eq_false_iff] at hc
  rcases ht with rfl | rfl | rfl <;> simp [shapeFor, hc]

/-- All that counts of a condition is whether it is a test of presence. -/
theorem shapeFor_congr {c' : Condition} (h : c.isExistenceTest = c'.isExistenceTest)
    (lookup : m LookupSource) : t.shapeFor c lookup = t.shapeFor c' lookup := by
  unfold shapeFor
  rw [h]

end

/-- The classification itself never fails. Its only failure is that of the lookup. -/
theorem shapeFor_eq_error_iff (t : StandardType) (c : Condition)
    (lookup : Except FieldError LookupSource) (e : FieldError) :
    t.shapeFor c lookup = .error e ↔ t.AsksReferences c ∧ lookup = .error e := by
  rcases t.asks_cases c with h | h | h
  · rw [shapeFor_of_asksNothing h]
    simp [pure, Except.pure, not_asksReferences_of_asksNothing h]
  · rw [shapeFor_of_holdsText h]
    simp [pure, Except.pure, not_asksReferences_of_holdsText h c]
  · rw [shapeFor_of_asksReferences h, map_eq_error_iff]
    simp [h]

end StandardType

/-! ## Fields that derive their answers -/

namespace Field

theorem conditions_of_derived {f : Field} (h : f.ownConditions = none) :
    f.conditions = (·.conditions) <$> f.standardType := by
  unfold conditions
  rw [h]

theorem valueShape_of_derived {f : Field} (h : f.ownShape = none) (c : Condition) :
    f.valueShape c = f.standardType >>= fun t => t.shapeFor c f.lookupSource := by
  unfold valueShape
  rw [h]

/-- A derived shape fails with the type or, where references are asked for, with the lookup. -/
theorem valueShape_eq_error_iff {f : Field} (h : f.ownShape = none) (c : Condition)
    (e : FieldError) :
    f.valueShape c = .error e ↔ f.standardType = .error e ∨
      ∃ t, f.standardType = .ok t ∧ t.AsksReferences c ∧ f.lookupSource = .error e := by
  rw [valueShape_of_derived h, bind_eq_error_iff]
  simp only [StandardType.shapeFor_eq_error_iff]

end Field

end RuleFields
